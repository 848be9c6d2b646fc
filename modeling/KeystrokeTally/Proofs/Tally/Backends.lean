import KeystrokeTally.Proofs.Tally.SqlTable
import KeystrokeTally.Proofs.Tally.Totals

namespace KeystrokeTally.Tally

open Classify (GroupId)

def rowOf (c : Int) (e : Key × Int) : CounterRow := ⟨e.1.bucket, e.1.bucket + c, e.1.group, .int e.2⟩

theorem counts_insert_perm (t : Std.TreeMap Key Int compare) (k : Key) (v : Int) :
    (t.insert k v).toList.Perm ((k, v) :: t.toList.filter (·.1 ≠ k)) := by
  refine Std.TreeMap.toList_insert_perm.trans (.cons _ (.of_eq (List.filter_congr fun e _ ↦ ?_)))
  by_cases h : e.1 = k
  · simp [h]
  · simp [h, Ne.symm h]

theorem rowSum_rowOf (c : Int) : ∀ l : List (Key × Int), rowSum (l.map (rowOf c)) = total l
  | [] => rfl
  | e :: l => by
    show e.2 + rowSum (l.map (rowOf c)) = e.2 + total l
    rw [rowSum_rowOf c l]

theorem groupSum_rowOf (c : Int) (l : List (Key × Int)) (g : GroupId) :
    groupSum (l.map (rowOf c)) g = total (l.filter (·.1.group == g)) := by
  unfold groupSum
  rw [List.filter_map]
  exact rowSum_rowOf c _

theorem read_rowOf (c : Int) : ∀ l : List (Key × Int),
    (l.map (rowOf c)).mapM CounterRow.read = .ok (l.map fun e ↦ (e.1.bucket, e.1.bucket + c, e.1.group, e.2))
  | [] => rfl
  | e :: l => by
    rw [List.map_cons, List.mapM_cons, read_rowOf c l]
    rfl

section Writes

variable {σ : Type} [CounterStore σ]

theorem commitKey_of_upsert {s s' : σ} {r : CommitReport} {k : Key} {n : Int}
    (hu : CounterStore.upsert s k.bucket k.group n = .ok (.ok s')) :
    Aggregator.commitKey (s, r) (k, n) =
      (Word.add r.keypressesWritten n).map fun w ↦ (s', { r with written := r.written + 1, keypressesWritten := w }) := by
  obtain ⟨b, g⟩ := k
  cases hw : Word.add r.keypressesWritten n <;>
    simp [Aggregator.commitKey, hu, hw, bind, Except.bind, pure, Except.pure, Except.map]

end Writes

theorem memory_upsert (m : MemoryStore) (hf : m.failing = []) (b : Int) (g : GroupId) (n : Int) :
    m.upsert b g n = (Word.add (m.countFor b g) n).map fun v ↦
      .ok { m with counts := m.counts.insert ⟨b, g⟩ v, writes := m.writes + 1 } := by
  cases hv : Word.add (m.countFor b g) n <;>
    simp [MemoryStore.upsert, hf, hv, bind, Except.bind, pure, Except.pure, Except.map]

theorem database_upsert {τ : Type} [CounterTable τ] (d : Database τ) {b : Int} (hb : Word.Fits (b + d.clusterSize))
    (g : GroupId) (n : Int) :
    d.upsert b g n = .ok (.ok { d with table := CounterTable.upsert d.table b (b + d.clusterSize) g n }) := by
  simp [Database.upsert, Word.add_eq_ok hb, bind, Except.bind, pure, Except.pure]

theorem Word.fits_of_add {a b n : Int} (h : Word.add a b = .ok n) : Word.Fits (a + b) := by
  unfold Word.add at h
  split at h
  · assumption
  · cases h

theorem Word.fits_of_sub {a b n : Int} (h : Word.sub a b = .ok n) : Word.Fits n := by
  unfold Word.sub at h
  split at h
  · cases h
    assumption
  · cases h

theorem bucketStart_fits {ts c b : Int} (h : bucketStart ts c = .ok b) : Word.Fits b := by
  unfold bucketStart at h
  cases hr : Word.remEuclid ts c with
  | error e => simp [hr, bind, Except.bind] at h
  | ok r =>
    simp only [hr, bind, Except.bind] at h
    exact Word.fits_of_sub h

/-- A call a client makes on the aggregation cache. -/
inductive Call where
  | record (group : Option GroupId) (ts count : Int)
  | commit

/-- The aggregation cache in front of a store, the statistics they share, and the reports of the
commits so far. -/
structure Session (σ : Type) where
  store : σ
  cache : Aggregator := {}
  stats : Stats.Counters := {}
  reports : List CommitReport := []

namespace Session

variable {σ : Type} [CounterStore σ]

def step (t : Session σ) : Call → Except Fault (Session σ)
  | .record group ts count => do
    let (_, cache, stats) ← t.cache.recordCount t.store t.stats group ts count
    pure { t with cache, stats }
  | .commit => do
    let (r, store, cache, stats) ← t.cache.commit t.store t.stats
    pure { store, cache, stats, reports := t.reports ++ [r] }

def run (t : Session σ) (calls : List Call) : Except Fault (Session σ) :=
  calls.foldlM step t

end Session

/-- A call that records key presses does so into a bucket whose end, its start plus the width
`c`, is a word. The database computes that end; the memory store never does. -/
def Call.EndFits (c : Int) : Call → Prop
  | .record (some _) ts count => 0 < count → ∀ b, bucketStart ts c = .ok b → b + c ≤ Word.max
  | _ => True

theorem Call.endFits_record {c ts b : Int} (g : Option GroupId) (count : Int) (hb : bucketStart ts c = .ok b)
    (hend : b + c ≤ Word.max) : (Call.record g ts count).EndFits c := by
  cases g with
  | none => trivial
  | some g =>
    intro _ b' hb'
    rw [hb] at hb'
    cases hb'
    exact hend

theorem recordCount_width {σ τ : Type} [CounterStore σ] [CounterStore τ] {s : σ} {s' : τ}
    (h : CounterStore.clusterSize s = CounterStore.clusterSize s') (a : Aggregator) (stats : Stats.Counters)
    (group : Option GroupId) (ts count : Int) :
    a.recordCount s stats group ts count = a.recordCount s' stats group ts count := by
  unfold Aggregator.recordCount CounterStore.bucketOf
  rw [h]

theorem not_mem_toList_empty (e : Key × Int) : e ∉ (∅ : Std.TreeMap Key Int compare).toList := fun he ↦ by
  have hnone := Std.TreeMap.mem_toList_iff_getElem?_eq_some.mp
    (show (e.1, e.2) ∈ (∅ : Std.TreeMap Key Int compare).toList from he)
  rw [Std.TreeMap.getElem?_emptyc] at hnone
  cases hnone

theorem Session.step_commit {σ : Type} [CounterStore σ] (t : Session σ) :
    t.step .commit =
      (t.cache.pending.toList.foldlM Aggregator.commitKey (t.store, { buckets := t.cache.pending.toList.length })).map
        fun sr ↦ { store := sr.1, cache := {}, stats := Cycle.commitStats t.stats sr.2, reports := t.reports ++ [sr.2] } := by
  unfold Session.step Aggregator.commit
  dsimp only
  cases t.cache.pending.toList.foldlM Aggregator.commitKey (t.store, { buckets := t.cache.pending.toList.length }) <;>
    rfl

section Engine

variable {τ : Type} [CounterTable τ] [SqlCounterTable τ] {c : Int}

open SqlCounterTable (rows)

theorem key_not_mirrored {t : τ} {m : Std.TreeMap Key Int compare} (hrows : (rows t).Perm (m.toList.map (rowOf c)))
    {k : Key} (hk : m[k]? = none) : ∀ r ∈ rows t, r.key ≠ k := by
  intro r hr hrk
  obtain ⟨e, he, rfl⟩ := List.mem_map.mp (hrows.mem_iff.mp hr)
  have he' := Std.TreeMap.mem_toList_iff_getElem?_eq_some.mp (show (e.1, e.2) ∈ m.toList from he)
  rw [show e.1 = k from hrk, hk] at he'
  cases he'

theorem mem_rows_mirrored {t : τ} {m : Std.TreeMap Key Int compare} (hrows : (rows t).Perm (m.toList.map (rowOf c)))
    {k : Key} {v : Int} (hk : m[k]? = some v) : rowOf c (k, v) ∈ rows t :=
  hrows.mem_iff.mpr (List.mem_map_of_mem (Std.TreeMap.mem_toList_iff_getElem?_eq_some.mpr hk))

theorem filter_rows_mirrored {t : τ} {l : List (Key × Int)} (hrows : (rows t).Perm (l.map (rowOf c)))
    (p : Key → Bool) : ((rows t).filter (p ·.key)).Perm ((l.filter (p ·.1)).map (rowOf c)) := by
  refine (hrows.filter _).trans (.of_eq ?_)
  rw [List.filter_map]
  rfl

theorem rows_upsert_mirror {t : τ} {m : Std.TreeMap Key Int compare} (hb : CounterTable.Built t)
    (hrows : (rows t).Perm (m.toList.map (rowOf c))) (k : Key) {n : Int} (hfit : Word.Fits (m.getD k 0 + n)) :
    (rows (CounterTable.upsert t k.bucket (k.bucket + c) k.group n)).Perm
      ((m.insert k (m.getD k 0 + n)).toList.map (rowOf c)) := by
  refine List.Perm.trans ?_ ((counts_insert_perm m k _).map (rowOf c)).symm
  rw [List.map_cons]
  cases hk : m[k]? with
  | none =>
    have hd : m.getD k 0 = 0 := by rw [Std.TreeMap.getD_eq_getD_getElem?, hk]; rfl
    have hkeep : m.toList.filter (·.1 ≠ k) = m.toList := List.filter_eq_self.mpr fun e he ↦ by
      have he' := Std.TreeMap.mem_toList_iff_getElem?_eq_some.mp (show (e.1, e.2) ∈ m.toList from he)
      refine decide_eq_true fun hek ↦ ?_
      rw [hek, hk] at he'
      cases he'
    rw [hd, hkeep, Int.zero_add]
    exact (SqlCounterTable.upsert_new (k.bucket + c) n hb (key_not_mirrored hrows hk)).trans (hrows.cons _)
  | some v =>
    have hd : m.getD k 0 = v := by rw [Std.TreeMap.getD_eq_getD_getElem?, hk]; rfl
    rw [hd] at hfit ⊢
    exact (SqlCounterTable.upsert_add (k.bucket + c) n hb (mem_rows_mirrored hrows hk) rfl hfit).trans
      (.cons _ (filter_rows_mirrored hrows (· ≠ k)))

/-- A memory session and a database session of width `c` that ran the same calls: the caches,
statistics and reports agree, the table was built by the session's writes and its rows are the
counters, every count is positive, and every pending bucket ends inside the word range. -/
structure Mirrors (c : Int) (tm : Session MemoryStore) (td : Session (Database τ)) : Prop where
  width_mem : tm.store.clusterSize = c
  width_db : td.store.clusterSize = c
  failing : tm.store.failing = []
  cache : td.cache = tm.cache
  stats : td.stats = tm.stats
  reports : td.reports = tm.reports
  built : CounterTable.Built td.store.table
  table : (rows td.store.table).Perm (tm.store.counts.toList.map (rowOf c))
  pending_pos : tm.cache.Positive
  counts_pos : ∀ e ∈ tm.store.counts.toList, 0 < e.2
  ends : ∀ e ∈ tm.cache.pending.toList, Word.Fits (e.1.bucket + c)

theorem commitKey_mirror {m m' : MemoryStore} {d : Database τ} {r r' : CommitReport}
    {k : Key} {n : Int} (hf : m.failing = []) (hw : d.clusterSize = c) (hb : CounterTable.Built d.table)
    (hrows : (rows d.table).Perm (m.counts.toList.map (rowOf c))) (hpos : ∀ e ∈ m.counts.toList, 0 < e.2)
    (hn : 0 < n) (hend : Word.Fits (k.bucket + c))
    (h : Aggregator.commitKey (m, r) (k, n) = .ok (m', r')) :
    ∃ d', Aggregator.commitKey (d, r) (k, n) = .ok (d', r') ∧ d'.clusterSize = c ∧ CounterTable.Built d'.table ∧
      (rows d'.table).Perm (m'.counts.toList.map (rowOf c)) ∧ m'.failing = [] ∧
      (∀ e ∈ m'.counts.toList, 0 < e.2) ∧ m'.clusterSize = m.clusterSize := by
  cases hv : Word.add (m.countFor k.bucket k.group) n with
  | error e =>
    have hu : CounterStore.upsert m k.bucket k.group n = .error e := by
      simp [CounterStore.upsert, memory_upsert m hf, hv, Except.map]
    simp [Aggregator.commitKey, hu, bind, Except.bind] at h
  | ok v =>
    have hu : CounterStore.upsert m k.bucket k.group n =
        .ok (.ok { m with counts := m.counts.insert k v, writes := m.writes + 1 }) := by
      simp [CounterStore.upsert, memory_upsert m hf, hv, Except.map]
    have hdb : CounterStore.upsert d k.bucket k.group n =
        .ok (.ok { d with table := CounterTable.upsert d.table k.bucket (k.bucket + c) k.group n }) := by
      show d.upsert _ _ _ = _
      rw [database_upsert d (hw ▸ hend), hw]
    rw [commitKey_of_upsert hu] at h
    cases hwr : Word.add r.keypressesWritten n with
    | error e => simp [hwr, Except.map] at h
    | ok w =>
      simp only [hwr, Except.map, Except.ok.injEq, Prod.mk.injEq] at h
      obtain ⟨rfl, rfl⟩ := h
      have hold : m.countFor k.bucket k.group = m.counts.getD k 0 := rfl
      have hnonneg : 0 ≤ m.counts.getD k 0 := Aggregator.Positive.getD_nonneg (a := ⟨m.counts⟩) hpos k
      have hvn : v = m.counts.getD k 0 + n := by rw [Word.eq_of_add hv, hold]
      have hfit : Word.Fits (m.counts.getD k 0 + n) := hold ▸ Word.fits_of_add hv
      refine ⟨{ d with table := CounterTable.upsert d.table k.bucket (k.bucket + c) k.group n },
        by rw [commitKey_of_upsert hdb, hwr]; rfl, hw, .upsert _ _ _ _ hb, ?_, hf, ?_, rfl⟩
      · rw [hvn]
        exact rows_upsert_mirror hb hrows k hfit
      · intro e he
        rcases mem_toList_insert he with rfl | he
        · show 0 < v
          omega
        · exact hpos e he

theorem commitKeys_mirror : ∀ (entries : List (Key × Int)) {m m' : MemoryStore} {d : Database τ}
    {r r' : CommitReport}, m.failing = [] → d.clusterSize = c → CounterTable.Built d.table →
    (rows d.table).Perm (m.counts.toList.map (rowOf c)) →
    (∀ e ∈ m.counts.toList, 0 < e.2) → (∀ e ∈ entries, 0 < e.2 ∧ Word.Fits (e.1.bucket + c)) →
    entries.foldlM Aggregator.commitKey (m, r) = .ok (m', r') →
    ∃ d', entries.foldlM Aggregator.commitKey (d, r) = .ok (d', r') ∧ d'.clusterSize = c ∧
      CounterTable.Built d'.table ∧ (rows d'.table).Perm (m'.counts.toList.map (rowOf c)) ∧ m'.failing = [] ∧
      (∀ e ∈ m'.counts.toList, 0 < e.2) ∧ m'.clusterSize = m.clusterSize
  | [], m, m', d, r, r', hf, hw, hb, hrows, hpos, _, h => by
    cases h
    exact ⟨d, rfl, hw, hb, hrows, hf, hpos, rfl⟩
  | (k, n) :: es, m, m', d, r, r', hf, hw, hb, hrows, hpos, hes, h => by
    rw [List.foldlM_cons] at h
    cases hk : Aggregator.commitKey (m, r) (k, n) with
    | error e =>
      rw [hk] at h
      cases h
    | ok mr =>
      obtain ⟨m₁, r₁⟩ := mr
      simp only [hk, bind, Except.bind] at h
      obtain ⟨hn, hend⟩ := hes (k, n) List.mem_cons_self
      obtain ⟨d₁, hd₁, hw₁, hb₁, hrows₁, hf₁, hpos₁, hwidth₁⟩ := commitKey_mirror hf hw hb hrows hpos hn hend hk
      obtain ⟨d', hd', hw', hb', hrows', hf', hpos', hwidth⟩ :=
        commitKeys_mirror es hf₁ hw₁ hb₁ hrows₁ hpos₁ (fun e he ↦ hes e (List.mem_cons_of_mem _ he)) h
      refine ⟨d', ?_, hw', hb', hrows', hf', hpos', hwidth.trans hwidth₁⟩
      rw [List.foldlM_cons, hd₁]
      exact hd'

theorem Mirrors.step {tm tm' : Session MemoryStore} {td : Session (Database τ)} (hc : 0 < c)
    (hm : Mirrors c tm td) {call : Call} (hend : call.EndFits c) (h : tm.step call = .ok tm') :
    ∃ td', td.step call = .ok td' ∧ Mirrors c tm' td' := by
  cases call with
  | record group ts count =>
    have hwidth : CounterStore.clusterSize td.store = CounterStore.clusterSize tm.store :=
      hm.width_db.trans hm.width_mem.symm
    cases hr : tm.cache.recordCount tm.store tm.stats group ts count with
    | error e => simp [Session.step, hr, bind, Except.bind] at h
    | ok res =>
      obtain ⟨ok, a', stats'⟩ := res
      simp only [Session.step, hr, bind, Except.bind, pure, Except.pure, Except.ok.injEq] at h
      subst h
      refine ⟨{ td with cache := a', stats := stats' }, ?_, ?_⟩
      · simp only [Session.step, hm.cache, hm.stats, recordCount_width hwidth, hr, bind, Except.bind, pure,
          Except.pure]
      · refine ⟨hm.width_mem, hm.width_db, hm.failing, rfl, rfl, hm.reports, hm.built, hm.table, ?_,
          hm.counts_pos, ?_⟩
        all_goals rcases recordCount_ok hr with ⟨-, g, b, rfl, hn, hb, hpend, -⟩ | ⟨-, rfl, -, -⟩
        · intro e he
          rw [hpend] at he
          rcases mem_toList_insert he with rfl | he
          · have := hm.pending_pos.getD_nonneg ⟨b, g⟩
            show 0 < tm.cache.pending.getD ⟨b, g⟩ 0 + count
            omega
          · exact hm.pending_pos e he
        · exact hm.pending_pos
        · intro e he
          rw [hpend] at he
          rcases mem_toList_insert he with rfl | he
          · have hb' : bucketStart ts c = .ok b := by rw [← hm.width_mem]; exact hb
            have hmax := hend hn b hb'
            have hfit := bucketStart_fits hb'
            show Word.min ≤ b + c ∧ b + c ≤ Word.max
            exact ⟨by unfold Word.Fits at hfit; omega, hmax⟩
          · exact hm.ends e he
        · exact hm.ends
  | commit =>
    rw [Session.step_commit] at h
    cases hk : tm.cache.pending.toList.foldlM Aggregator.commitKey
        (tm.store, { buckets := tm.cache.pending.toList.length }) with
    | error e =>
      rw [hk] at h
      cases h
    | ok mr =>
      obtain ⟨m', r⟩ := mr
      rw [hk] at h
      cases h
      obtain ⟨d', hd', hw', hb', hrows', hf', hpos', hwidth'⟩ :=
        commitKeys_mirror _ hm.failing hm.width_db hm.built hm.table hm.counts_pos
          (fun e he ↦ ⟨hm.pending_pos e he, hm.ends e he⟩) hk
      refine ⟨{ store := d', cache := {}, stats := Cycle.commitStats tm.stats r, reports := tm.reports ++ [r] }, ?_, ?_⟩
      · rw [Session.step_commit, hm.cache, hm.stats, hm.reports, hd']
        rfl
      · exact ⟨hwidth'.trans hm.width_mem, hw', hf', rfl, rfl, rfl, hb', hrows', positive_empty, hpos',
          fun e he ↦ absurd he (not_mem_toList_empty e)⟩

theorem Mirrors.run (hc : 0 < c) : ∀ (calls : List Call) {tm tm' : Session MemoryStore}
    {td : Session (Database τ)}, Mirrors c tm td → (∀ call ∈ calls, call.EndFits c) → tm.run calls = .ok tm' →
    ∃ td', td.run calls = .ok td' ∧ Mirrors c tm' td'
  | [], _, _, td, hm, _, h => by
    cases h
    exact ⟨td, rfl, hm⟩
  | call :: calls, tm, tm', td, hm, hends, h => by
    simp only [Session.run, List.foldlM_cons] at h
    cases h₁ : tm.step call with
    | error e => simp [h₁, bind, Except.bind] at h
    | ok tm₁ =>
      simp only [h₁, bind, Except.bind] at h
      obtain ⟨td₁, hd₁, hm₁⟩ := hm.step hc (hends call List.mem_cons_self) h₁
      obtain ⟨td', hd', hm'⟩ :=
        Mirrors.run hc calls hm₁ (fun c' hc' ↦ hends c' (List.mem_cons_of_mem _ hc')) h
      refine ⟨td', ?_, hm'⟩
      simp only [Session.run, List.foldlM_cons, hd₁, bind, Except.bind]
      exact hd'

section Queries

variable {d : Database τ}

theorem countFor_mirror {m : Std.TreeMap Key Int compare} (hb : CounterTable.Built d.table)
    (hrows : (rows d.table).Perm (m.toList.map (rowOf c))) (b : Int) (g : GroupId) :
    d.countFor b g = .ok m[(⟨b, g⟩ : Key)]? := by
  unfold Database.countFor
  cases hk : m[(⟨b, g⟩ : Key)]? with
  | some v =>
    rw [show CounterTable.countFor d.table b g = _ from SqlCounterTable.countFor_row hb (mem_rows_mirrored hrows hk)]
    rfl
  | none =>
    rw [SqlCounterTable.countFor_none hb (key_not_mirrored hrows hk)]
    rfl

theorem between_mirror {m : Std.TreeMap Key Int compare} (hb : CounterTable.Built d.table)
    (hrows : (rows d.table).Perm (m.toList.map (rowOf c))) (lo hi : Int) :
    d.between lo hi = .ok ((m.toList.filter fun e ↦ lo ≤ e.1.bucket && e.1.bucket ≤ hi).map
      fun e ↦ (e.1.bucket, e.1.bucket + c, e.1.group, e.2)) := by
  obtain ⟨rs, hperm, hsorted, hq⟩ := SqlCounterTable.between_rows lo hi hb
  have hsorted' : ((m.toList.filter fun e ↦ lo ≤ e.1.bucket && e.1.bucket ≤ hi).map (rowOf c)).Pairwise RowLt :=
    List.pairwise_map.mpr (Std.TreeMap.ordered_keys_toList.filter _)
  have hrs : rs = (m.toList.filter fun e ↦ lo ≤ e.1.bucket && e.1.bucket ≤ hi).map (rowOf c) :=
    List.Perm.eq_of_pairwise' hsorted hsorted'
      (hperm.trans (filter_rows_mirrored hrows fun k ↦ lo ≤ k.bucket && k.bucket ≤ hi))
  unfold Database.between
  rw [hq, hrs, read_rowOf]
  rfl

def groupTotalOf (l : List (Key × Int)) (g : GroupId) : Int := total (l.filter (·.1.group == g))

theorem groupTotalOf_eq_zero {l : List (Key × Int)} {g : GroupId} (h : ∀ e ∈ l, e.1.group ≠ g) :
    groupTotalOf l g = 0 := by
  unfold groupTotalOf
  rw [List.filter_eq_nil_iff.mpr fun e he ↦ by simpa using h e he]
  rfl

theorem group_mem_of_not_fits {l : List (Key × Int)} {gs : List Int} (hmem : ∀ g, g ∈ gs ↔ ∃ e ∈ l, e.1.group = g)
    {g : GroupId} (hg : ¬ Word.Fits (groupTotalOf l g)) : g ∈ gs := by
  refine (hmem g).mpr (by_contra fun hnone ↦ hg ?_)
  rw [groupTotalOf_eq_zero fun e he hge ↦ hnone ⟨e, he, hge⟩]
  unfold Word.Fits Word.min Word.max
  omega

theorem totals_mirror {l : List (Key × Int)} (hb : CounterTable.Built d.table)
    (hrows : (rows d.table).Perm (l.map (rowOf c))) (hpos : ∀ e ∈ l, 0 < e.2) :
    ∃ gs : List Int, gs.Pairwise (· < ·) ∧ (∀ g, g ∈ gs ↔ ∃ e ∈ l, e.1.group = g) ∧
      d.totals = if ∀ g ∈ gs, Word.Fits (groupTotalOf l g)
        then .ok (gs.map fun g ↦ (g, groupTotalOf l g)) else .error (.database (.read .overflow)) := by
  have hint : ∀ r ∈ rows d.table, ∃ n, r.count = .int n ∧ 0 ≤ n := fun r hr ↦ by
    obtain ⟨e, he, rfl⟩ := List.mem_map.mp (hrows.mem_iff.mp hr)
    exact ⟨e.2, rfl, Int.le_of_lt (hpos e he)⟩
  have hsum : ∀ g, groupSum (rows d.table) g = groupTotalOf l g := fun g ↦
    (groupSum_perm hrows g).trans (groupSum_rowOf c l g)
  obtain ⟨gs, hgs, hmem, htot⟩ := SqlCounterTable.totals_sums hb hint
  refine ⟨gs, hgs, fun g ↦ ?_, ?_⟩
  · rw [hmem]
    constructor
    · rintro ⟨r, hr, rfl⟩
      obtain ⟨e, he, rfl⟩ := List.mem_map.mp (hrows.mem_iff.mp hr)
      exact ⟨e, he, rfl⟩
    · rintro ⟨e, he, rfl⟩
      exact ⟨rowOf c e, hrows.mem_iff.mpr (List.mem_map_of_mem he), rfl⟩
  · unfold Database.totals Database.readFailure
    rw [htot]
    simp only [hsum]
    split <;> rfl

end Queries

theorem MemoryStore.make_eq_ok {m₀ : MemoryStore} (h : MemoryStore.make c = .ok m₀) :
    0 < c ∧ m₀ = { clusterSize := c } := by
  unfold MemoryStore.make checkClusterSize at h
  split at h
  case isFalse => cases h
  case isTrue hc =>
    cases h
    exact ⟨hc, rfl⟩

theorem Mirrors.init {m₀ : MemoryStore} (hmake : MemoryStore.make c = .ok m₀) :
    0 < c ∧ (Database.inMemory c : Except StoreError (Database τ)) = .ok { clusterSize := c, table := CounterTable.empty } ∧
      Mirrors c { store := m₀ } ({ store := { clusterSize := c, table := CounterTable.empty } } : Session (Database τ)) := by
  obtain ⟨hc, rfl⟩ := MemoryStore.make_eq_ok hmake
  refine ⟨hc, ?_, rfl, rfl, rfl, rfl, rfl, rfl, .empty, ?_, positive_empty,
    fun e he ↦ absurd he (not_mem_toList_empty e), fun e he ↦ absurd he (not_mem_toList_empty e)⟩
  · simp [Database.inMemory, checkClusterSize, hc, bind, Except.bind, pure, Except.pure]
  · rw [SqlCounterTable.rows_empty]
    exact .of_eq rfl

end Engine

/-- For any table engine that gives the counter table's statements their SQL meaning: a memory
store and a database of the same width, driven through the aggregation cache by the same calls
that the memory session runs without fault, report the same commits and statistics, and the
database then answers every query from the memory store's counters: the count of a bucket and
group is the counter's, none when never written; the range query lists the counters whose
bucket starts in the range, in key order, each with its bucket's end; and the totals list each
group once, ascending, with the sum of its counters, when every group's sum fits the word, and
fail with an integer overflow when one does not. The calls record only into buckets whose end
fits the word. -/
theorem backends_agree {τ : Type} [CounterTable τ] [SqlCounterTable τ] (c : Int) (calls : List Call)
    {m₀ : MemoryStore} {tm : Session MemoryStore}
    (hmake : MemoryStore.make c = .ok m₀) (hrun : Session.run { store := m₀ } calls = .ok tm)
    (hends : ∀ call ∈ calls, call.EndFits c) :
    ∃ d₀ td, (Database.inMemory c : Except StoreError (Database τ)) = .ok d₀ ∧
      Session.run { store := d₀ } calls = .ok td ∧
      td.reports = tm.reports ∧ td.stats = tm.stats ∧
      (∀ b g, td.store.countFor b g = .ok tm.store.counts[(⟨b, g⟩ : Key)]?) ∧
      (∀ lo hi, td.store.between lo hi =
        .ok ((tm.store.counters.filter fun e ↦ lo ≤ e.1.bucket && e.1.bucket ≤ hi).map
          fun e ↦ (e.1.bucket, e.1.bucket + c, e.1.group, e.2))) ∧
      ((∀ g, Word.Fits (groupTotalOf tm.store.counters g)) →
        ∃ L, td.store.totals = .ok L ∧ L.Pairwise (·.1 < ·.1) ∧
          ∀ p, p ∈ L ↔ (∃ e ∈ tm.store.counters, e.1.group = p.1) ∧ p.2 = groupTotalOf tm.store.counters p.1) ∧
      ((∃ g, ¬ Word.Fits (groupTotalOf tm.store.counters g)) →
        td.store.totals = .error (.database (.read .overflow))) := by
  obtain ⟨hc, hdb, hm₀⟩ := Mirrors.init (τ := τ) hmake
  obtain ⟨td, htd, hm⟩ := Mirrors.run hc calls hm₀ hends hrun
  obtain ⟨gs, hgs, hmem, htotals⟩ := totals_mirror hm.built hm.table hm.counts_pos
  refine ⟨_, td, hdb, htd, hm.reports, hm.stats, countFor_mirror hm.built hm.table,
    between_mirror hm.built hm.table, ?_, ?_⟩
  · intro hfit
    refine ⟨gs.map fun g ↦ (g, groupTotalOf tm.store.counters g), ?_, List.pairwise_map.mpr hgs, fun p ↦ ?_⟩
    · exact htotals.trans (if_pos fun g _ ↦ hfit g)
    · rw [List.mem_map]
      constructor
      · rintro ⟨g, hg, rfl⟩
        exact ⟨(hmem g).mp hg, rfl⟩
      · rintro ⟨hg, hp⟩
        exact ⟨p.1, (hmem p.1).mpr hg, Prod.ext rfl hp.symm⟩
  · rintro ⟨g, hg⟩
    exact htotals.trans (if_neg fun h ↦ hg (h g (group_mem_of_not_fits hmem hg)))

theorem backends_agree_one_press :
    let calls := [Call.record (some 1) 0 1, .commit]
    ∃ m₀ tm, MemoryStore.make 900 = .ok m₀ ∧ Session.run { store := m₀ } calls = .ok tm ∧
      (∀ call ∈ calls, call.EndFits 900) ∧
      ∃ d₀ td, (Database.inMemory 900 : Except StoreError (Database CounterFile)) = .ok d₀ ∧
        Session.run { store := d₀ } calls = .ok td ∧
        td.reports = tm.reports ∧ td.store.countFor 0 1 = .ok (some 1) := by
  intro calls
  have hmake : MemoryStore.make 900 = .ok { clusterSize := 900 } := rfl
  have hrun : Session.run { store := ({ clusterSize := 900 } : MemoryStore) } calls = .ok _ := rfl
  have hends : ∀ call ∈ calls, call.EndFits 900 := by
    intro call hcall
    simp only [calls, List.mem_cons, List.not_mem_nil, or_false] at hcall
    rcases hcall with rfl | rfl
    · exact Call.endFits_record _ _ (rfl : bucketStart 0 900 = .ok 0) (by unfold Word.max; omega)
    · trivial
  obtain ⟨d₀, td, hdb, htd, hrep, -, hcount, -⟩ := backends_agree (τ := CounterFile) 900 calls hmake hrun hends
  exact ⟨_, _, hmake, hrun, hends, d₀, td, hdb, htd, hrep, (hcount 0 1).trans rfl⟩

theorem totals_overflow_two_buckets {τ : Type} [CounterTable τ] [SqlCounterTable τ] :
    let calls := [Call.record (some 1) 0 9223372036854775807, .commit, .record (some 1) 900 1, .commit]
    ∃ m₀ tm d₀ td, MemoryStore.make 900 = .ok m₀ ∧ Session.run { store := m₀ } calls = .ok tm ∧
      (Database.inMemory 900 : Except StoreError (Database τ)) = .ok d₀ ∧
      Session.run { store := d₀ } calls = .ok td ∧
      groupTotalOf tm.store.counters 1 = 9223372036854775808 ∧
      td.store.totals = .error (.database (.read .overflow)) := by
  intro calls
  obtain ⟨tm, hrun⟩ : ∃ tm, Session.run { store := ({ clusterSize := 900 } : MemoryStore) } calls = .ok tm :=
    ⟨_, rfl⟩
  have hsum : groupTotalOf tm.store.counters 1 = 9223372036854775808 := by
    have h : (Session.run { store := ({ clusterSize := 900 } : MemoryStore) } calls).map
        (groupTotalOf ·.store.counters 1) = .ok 9223372036854775808 := rfl
    rw [hrun] at h
    exact Except.ok.inj h
  have hends : ∀ call ∈ calls, call.EndFits 900 := by
    intro call hcall
    simp only [calls, List.mem_cons, List.not_mem_nil, or_false] at hcall
    rcases hcall with rfl | rfl | rfl | rfl
    · exact Call.endFits_record _ _ (rfl : bucketStart 0 900 = .ok 0) (by unfold Word.max; omega)
    · trivial
    · exact Call.endFits_record _ _ (rfl : bucketStart 900 900 = .ok 900) (by unfold Word.max; omega)
    · trivial
  obtain ⟨hc, hdb, hm₀⟩ := Mirrors.init (τ := τ) (rfl : MemoryStore.make 900 = .ok { clusterSize := 900 })
  obtain ⟨td, htd, hm⟩ := Mirrors.run hc calls hm₀ hends hrun
  obtain ⟨gs, -, hmem, htotals⟩ := totals_mirror hm.built hm.table hm.counts_pos
  have hover : ¬ Word.Fits (groupTotalOf tm.store.counters 1) := by
    rw [hsum]
    unfold Word.Fits Word.max
    omega
  refine ⟨_, tm, _, td, rfl, hrun, hdb, htd, hsum, ?_⟩
  exact htotals.trans (if_neg fun h ↦ hover (h 1 (group_mem_of_not_fits hmem hover)))

theorem totals_overflow_group_sum :
    let calls := [Call.record (some 1) 0 9223372036854775807, .commit, .record (some 1) 900 1, .commit]
    ∃ m₀ tm d₀ td, MemoryStore.make 900 = .ok m₀ ∧ Session.run { store := m₀ } calls = .ok tm ∧
      (Database.inMemory 900 : Except StoreError (Database CounterFile)) = .ok d₀ ∧
      Session.run { store := d₀ } calls = .ok td ∧
      groupTotalOf tm.store.counters 1 = 9223372036854775808 ∧
      td.store.totals = .error (.database (.read .overflow)) :=
  totals_overflow_two_buckets

end KeystrokeTally.Tally
