import Mathlib.Logic.Function.Basic
import KeystrokeTally.Tally.Aggregator
import KeystrokeTally.Tally.Memory

namespace KeystrokeTally.Tally

open Classify (GroupId)

theorem compare_key : (compare : Key → Key → Ordering) = compareLex (compareOn Key.bucket) (compareOn Key.group) := by
  funext a b
  obtain ⟨b₁, g₁⟩ := a
  obtain ⟨b₂, g₂⟩ := b
  show (compare b₁ b₂).then ((compare g₁ g₂).then .eq) = (compare b₁ b₂).then (compare g₁ g₂)
  cases compare g₁ g₂ <;> rfl

instance : Std.TransCmp (compare : Key → Key → Ordering) := by
  rw [compare_key]
  infer_instance

instance : Std.LawfulEqCmp (compare : Key → Key → Ordering) where
  compare_self {a} := by
    rw [compare_key, compareLex_eq_eq]
    exact ⟨Std.ReflCmp.compare_self, Std.ReflCmp.compare_self⟩
  eq_of_compare {a b} h := by
    rw [compare_key, compareLex_eq_eq] at h
    obtain ⟨b₁, g₁⟩ := a
    obtain ⟨b₂, g₂⟩ := b
    obtain ⟨hb, hg⟩ := h
    have hb' : b₁ = b₂ := Std.LawfulEqOrd.eq_of_compare hb
    have hg' : g₁ = g₂ := Std.LawfulEqOrd.eq_of_compare hg
    rw [hb', hg']

theorem Word.eq_of_add {a b n : Int} (h : Word.add a b = .ok n) : n = a + b := by
  unfold Word.add at h
  split at h
  · exact (Except.ok.inj h).symm
  · cases h

section Record

variable {σ : Type} [CounterStore σ] {s : σ} {a a' : Aggregator} {stats stats' : Stats.Counters}
  {group : Option GroupId} {ts count : Int} {ok : Bool}

theorem recordCount_ok (h : a.recordCount s stats group ts count = .ok (ok, a', stats')) :
    (ok = true ∧ ∃ g b, group = some g ∧ 0 < count ∧ CounterStore.bucketOf s ts = .ok b ∧
      a'.pending = a.pending.insert ⟨b, g⟩ (a.pending.getD ⟨b, g⟩ 0 + count) ∧
      stats' = stats.recordKeypresses count.toNat) ∨
    (ok = false ∧ a' = a ∧ stats' = stats ∧ (group = none ∨ count ≤ 0)) := by
  unfold Aggregator.recordCount at h
  cases group with
  | none =>
    cases h
    exact Or.inr ⟨rfl, rfl, rfl, Or.inl rfl⟩
  | some g =>
    dsimp only at h
    split at h
    · cases h
      exact Or.inr ⟨rfl, rfl, rfl, Or.inr ‹_›⟩
    · rename_i hc
      cases hb : CounterStore.bucketOf s ts with
      | error e =>
        rw [hb] at h
        cases h
      | ok b =>
        rw [hb] at h
        cases hn : Word.add (a.pending.getD ⟨b, g⟩ 0) count with
        | error e =>
          simp only [bind, Except.bind, hn] at h
          cases h
        | ok n =>
          simp only [bind, Except.bind, hn, pure, Except.pure, Except.ok.injEq, Prod.mk.injEq] at h
          obtain ⟨rfl, rfl, rfl⟩ := h
          rw [Word.eq_of_add hn]
          exact Or.inl ⟨rfl, g, b, rfl, Int.lt_of_not_ge hc, rfl, rfl, rfl⟩

end Record

theorem commitKey_memory {s s' : MemoryStore} {r r' : CommitReport} {k : Key} {n : Int}
    (h : Aggregator.commitKey (s, r) (k, n) = .ok (s', r')) :
    if s.failing.contains k.group then
      s' = s ∧ r' = { r with failed := r.failed + 1, keypressesDropped := r.keypressesDropped + n }
    else
      s' = { s with counts := s.counts.insert k (s.countFor k.bucket k.group + n), writes := s.writes + 1 } ∧
        r' = { r with written := r.written + 1, keypressesWritten := r.keypressesWritten + n } := by
  obtain ⟨b, g⟩ := k
  unfold Aggregator.commitKey at h
  by_cases hf : s.failing.contains g = true
  · rw [if_pos hf]
    cases hd : Word.add r.keypressesDropped n with
    | error e =>
      simp only [CounterStore.upsert, MemoryStore.upsert, hf, if_true, bind, Except.bind, pure, Except.pure, hd] at h
      cases h
    | ok d =>
      simp only [CounterStore.upsert, MemoryStore.upsert, hf, if_true, bind, Except.bind, pure, Except.pure, hd,
        Except.ok.injEq, Prod.mk.injEq] at h
      obtain ⟨rfl, rfl⟩ := h
      rw [Word.eq_of_add hd]
      exact ⟨rfl, rfl⟩
  · rw [if_neg hf]
    cases hc : Word.add (s.countFor b g) n with
    | error e =>
      simp only [CounterStore.upsert, MemoryStore.upsert, hf, Bool.false_eq_true, if_false, bind, Except.bind, hc] at h
      cases h
    | ok m =>
      cases hw : Word.add r.keypressesWritten n with
      | error e =>
        simp only [CounterStore.upsert, MemoryStore.upsert, hf, Bool.false_eq_true, if_false, bind, Except.bind,
          pure, Except.pure, hc, hw] at h
        cases h
      | ok w =>
        simp only [CounterStore.upsert, MemoryStore.upsert, hf, Bool.false_eq_true, if_false, bind, Except.bind,
          pure, Except.pure, hc, hw, Except.ok.injEq, Prod.mk.injEq] at h
        obtain ⟨rfl, rfl⟩ := h
        rw [Word.eq_of_add hc, Word.eq_of_add hw]
        exact ⟨rfl, rfl⟩

/-- One atomic step of the cycle, from whichever thread takes it. -/
inductive CycleOp where
  | record (group : Option GroupId) (ts count : Int)
  | swap
  | write
  | finish
  | fail (group : GroupId)
  | heal

def total (l : List (Key × Int)) : Int := l.foldr (fun e acc ↦ e.2 + acc) 0

def countOf (l : List (Key × Int)) (k : Key) : Int := l.foldr (fun e acc ↦ if e.1 = k then e.2 + acc else acc) 0

/-- The commit in progress: its snapshot, the part of it still to write, its report so far. -/
structure InFlight where
  snapshot : List (Key × Int)
  rest : List (Key × Int)
  report : CommitReport

/-- The accounting kept beside the cycle's state: per key, the key presses dropped by refused
writes, and every finished commit's report with its snapshot, the latest first. -/
structure Ledger where
  dropped : Key → Int := fun _ ↦ 0
  commits : List (CommitReport × List (Key × Int)) := []

namespace Ledger

def drop (l : Ledger) (k : Key) (n : Int) : Ledger :=
  { l with dropped := Function.update l.dropped k (l.dropped k + n) }

def writtenTotal (l : Ledger) : Nat := l.commits.foldr (fun c acc ↦ c.1.written + acc) 0

def failedTotal (l : Ledger) : Nat := l.commits.foldr (fun c acc ↦ c.1.failed + acc) 0

def droppedTotal (l : Ledger) : Nat := l.commits.foldr (fun c acc ↦ c.1.keypressesDropped.toNat + acc) 0

end Ledger

/-- The shared state of the cycle: the store, the cache and the statistics, the commit in
progress if any, and the accounting. -/
structure Cycle where
  store : MemoryStore
  cache : Aggregator := {}
  stats : Stats.Counters := {}
  inflight : Option InFlight := none
  ledger : Ledger := {}

namespace Cycle

def commitStats (stats : Stats.Counters) (r : CommitReport) : Stats.Counters :=
  if r.buckets == 0 then stats else stats.recordCommit r.written r.failed r.keypressesDropped

/-- One atomic step. A record and a swap hold the cache lock; a second commit waits while one
is in progress. A fault (a sum out of the word range) ends the run. -/
def step (c : Cycle) : CycleOp → Except Fault Cycle
  | .record group ts count => do
    let (_, cache, stats) ← c.cache.recordCount c.store c.stats group ts count
    pure { c with cache, stats }
  | .swap =>
    match c.inflight with
    | some _ => pure c
    | none =>
      let entries := c.cache.pending.toList
      pure { c with cache := {}, inflight := some ⟨entries, entries, { buckets := entries.length }⟩ }
  | .write =>
    match c.inflight with
    | some ⟨snapshot, (k, n) :: rest, report⟩ => do
      let (store, report) ← Aggregator.commitKey (c.store, report) (k, n)
      let ledger := if c.store.failing.contains k.group then c.ledger.drop k n else c.ledger
      pure { c with store, inflight := some ⟨snapshot, rest, report⟩, ledger }
    | _ => pure c
  | .finish =>
    match c.inflight with
    | some ⟨snapshot, [], report⟩ =>
      pure { c with stats := commitStats c.stats report, inflight := none,
                    ledger := { c.ledger with commits := (report, snapshot) :: c.ledger.commits } }
    | _ => pure c
  | .fail group => pure { c with store := c.store.failGroup group }
  | .heal => pure { c with store := c.store.heal }

def start (clusterSize : Int) : Cycle := { store := { clusterSize } }

def run (clusterSize : Int) (ops : List CycleOp) : Except Fault Cycle := ops.foldlM step (start clusterSize)

end Cycle

/-- The key presses a step asks to count under `k`: those of a record of `k`'s group with a
positive count at a timestamp of `k`'s bucket. -/
def requestedBy (clusterSize : Int) (k : Key) : CycleOp → Int
  | .record (some g) ts count =>
    if g = k.group ∧ 0 < count ∧ (bucketStart ts clusterSize).toOption = some k.bucket then count else 0
  | _ => 0

def requestedCount : CycleOp → Nat
  | .record (some _) _ count => if 0 < count then count.toNat else 0
  | _ => 0

def requested (clusterSize : Int) (ops : List CycleOp) (k : Key) : Int :=
  ops.foldl (fun acc op ↦ acc + requestedBy clusterSize k op) 0

def requestedTotal (ops : List CycleOp) : Nat :=
  ops.foldl (fun acc op ↦ acc + requestedCount op) 0

theorem requested_snoc (clusterSize : Int) (ops : List CycleOp) (op : CycleOp) (k : Key) :
    requested clusterSize (ops ++ [op]) k = requested clusterSize ops k + requestedBy clusterSize k op := by
  rw [requested, List.foldl_append, List.foldl_cons, List.foldl_nil]
  rfl

theorem requestedTotal_snoc (ops : List CycleOp) (op : CycleOp) :
    requestedTotal (ops ++ [op]) = requestedTotal ops + requestedCount op := by
  rw [requestedTotal, List.foldl_append, List.foldl_cons, List.foldl_nil]
  rfl

theorem countOf_eq_zero {l : List (Key × Int)} {k : Key} (h : ∀ e ∈ l, e.1 ≠ k) : countOf l k = 0 := by
  induction l with
  | nil => rfl
  | cons e l ih =>
    simp only [countOf, List.foldr_cons]
    rw [if_neg (h e List.mem_cons_self)]
    exact ih fun e' he' ↦ h e' (List.mem_cons_of_mem _ he')

theorem countOf_of_mem {l : List (Key × Int)} {k : Key} {v : Int} (hd : l.Pairwise (fun a b ↦ a.1 ≠ b.1))
    (hm : (k, v) ∈ l) : countOf l k = v := by
  induction l with
  | nil => cases hm
  | cons e l ih =>
    rw [List.pairwise_cons] at hd
    simp only [countOf, List.foldr_cons]
    rcases List.mem_cons.mp hm with rfl | hm
    · rw [if_pos rfl]
      have h0 : countOf l k = 0 := countOf_eq_zero fun e' he' h ↦ hd.1 e' he' h.symm
      exact (congrArg (v + ·) h0).trans (Int.add_zero v)
    · rw [if_neg (hd.1 _ hm)]
      exact ih hd.2 hm

theorem toList_keys_distinct (t : Std.TreeMap Key Int compare) : t.toList.Pairwise (fun a b ↦ a.1 ≠ b.1) :=
  Std.TreeMap.distinct_keys_toList.imp fun {a b} h he ↦ h (by rw [he]; exact Std.ReflCmp.compare_self)

theorem countOf_toList (t : Std.TreeMap Key Int compare) (k : Key) : countOf t.toList k = t.getD k 0 := by
  have hd := toList_keys_distinct t
  rw [Std.TreeMap.getD_eq_getD_getElem?]
  cases hk : t[k]? with
  | some v => exact countOf_of_mem hd (Std.TreeMap.mem_toList_iff_getElem?_eq_some.mpr hk)
  | none =>
    refine countOf_eq_zero fun e he hek ↦ ?_
    have hmem := Std.TreeMap.mem_toList_iff_getElem?_eq_some.mp (show (e.1, e.2) ∈ t.toList from he)
    rw [hek, hk] at hmem
    cases hmem

theorem countOf_cons (e : Key × Int) (l : List (Key × Int)) (k : Key) :
    countOf (e :: l) k = (if e.1 = k then e.2 else 0) + countOf l k := by
  simp only [countOf, List.foldr_cons]
  split <;> simp

theorem getD_insert_key (t : Std.TreeMap Key Int compare) (k k' : Key) (v : Int) :
    (t.insert k v).getD k' 0 = if k = k' then v else t.getD k' 0 := by
  rw [Std.TreeMap.getD_insert]
  simp only [Std.LawfulEqCmp.compare_eq_iff_eq]

namespace Cycle

def inflightOf (c : Cycle) (k : Key) : Int :=
  match c.inflight with
  | none => 0
  | some f => countOf f.rest k

end Cycle

/-- How far a commit has got: its report counts the keys it took, splits the keys handled so far
between written and failed and their key presses between written and dropped, and reports no
dropped key press while no write has failed. -/
structure InFlight.Progress (f : InFlight) : Prop where
  buckets : f.report.buckets = f.snapshot.length
  keys : f.report.written + f.report.failed + f.rest.length = f.snapshot.length
  presses : f.report.keypressesWritten + f.report.keypressesDropped + total f.rest = total f.snapshot
  quiet : f.report.failed = 0 → f.report.keypressesDropped = 0

/-- What every state of a run keeps, after the steps `done`: for each key, the key presses asked
for are counted by the store, pending, in the commit in progress or dropped; the commit in
progress is on track; every finished commit's report balances; and the statistics count what
was asked for and what the reports say. -/
structure Balanced (clusterSize : Int) (done : List CycleOp) (c : Cycle) : Prop where
  width : c.store.clusterSize = clusterSize
  conserved : ∀ k, requested clusterSize done k =
    c.store.countFor k.bucket k.group + c.cache.pending.getD k 0 + c.inflightOf k + c.ledger.dropped k
  progress : ∀ f, c.inflight = some f → f.Progress
  reports : ∀ p ∈ c.ledger.commits,
    p.1.buckets = p.1.written + p.1.failed ∧ p.1.keypressesWritten + p.1.keypressesDropped = total p.2
  recorded : c.stats.keypressesRecorded = requestedTotal done % Nat.pow 2 64
  keypressesDropped : c.stats.keypressesDropped = c.ledger.droppedTotal % Nat.pow 2 64
  bucketsWritten : c.stats.bucketsWritten = c.ledger.writtenTotal
  bucketsDropped : c.stats.bucketsDropped = c.ledger.failedTotal

section Steps

variable {clusterSize : Int} {done : List CycleOp} {c c' : Cycle}

theorem balanced_start (clusterSize : Int) : Balanced clusterSize [] (Cycle.start clusterSize) where
  width := rfl
  conserved _ := rfl
  progress _ h := by cases h
  reports _ h := by cases h
  recorded := rfl
  keypressesDropped := rfl
  bucketsWritten := rfl
  bucketsDropped := rfl

theorem Balanced.record (hb : Balanced clusterSize done c) {group : Option GroupId} {ts count : Int}
    (h : c.step (.record group ts count) = .ok c') : Balanced clusterSize (done ++ [.record group ts count]) c' := by
  simp only [Cycle.step, bind, Except.bind] at h
  cases hr : c.cache.recordCount c.store c.stats group ts count with
  | error e =>
    rw [hr] at h
    cases h
  | ok res =>
    obtain ⟨ok, a', st'⟩ := res
    rw [hr] at h
    cases h
    rcases recordCount_ok hr with ⟨-, g, b, rfl, hpos, hbk, hpend, rfl⟩ | ⟨-, rfl, rfl, hnone⟩
    · have hbk' : bucketStart ts clusterSize = .ok b := by rw [← hb.width]; exact hbk
      refine ⟨hb.width, fun k ↦ ?_, hb.progress, hb.reports, ?_, hb.keypressesDropped, hb.bucketsWritten,
        hb.bucketsDropped⟩
      · rw [requested_snoc, hb.conserved k]
        show _ = c.store.countFor k.bucket k.group + a'.pending.getD k 0 + c.inflightOf k + c.ledger.dropped k
        rw [hpend, getD_insert_key]
        by_cases hk : (⟨b, g⟩ : Key) = k
        · subst hk
          simp only [requestedBy, hbk', Except.toOption, hpos, and_self, if_true]
          omega
        · have hreq : requestedBy clusterSize k (.record (some g) ts count) = 0 := by
            simp only [requestedBy, hbk', Except.toOption, Option.some.injEq]
            exact if_neg fun ⟨hg, _, hbb⟩ ↦ hk (by cases k; simp_all)
          rw [if_neg hk, hreq]
          omega
      · show (c.stats.keypressesRecorded + count.toNat) % Nat.pow 2 64 = _
        rw [hb.recorded, requestedTotal_snoc]
        simp only [requestedCount, hpos, if_true]
        exact (Nat.mod_add_mod _ _ _)
    · have hreq : ∀ k, requestedBy clusterSize k (.record group ts count) = 0 := by
        intro k
        rcases hnone with rfl | hc
        · rfl
        · cases group
          · rfl
          · exact if_neg fun ⟨_, hpos, _⟩ ↦ absurd hpos (Int.not_lt.mpr hc)
      have hcount : requestedCount (.record group ts count) = 0 := by
        rcases hnone with rfl | hc
        · rfl
        · cases group
          · rfl
          · exact if_neg (Int.not_lt.mpr hc)
      refine ⟨hb.width, fun k ↦ ?_, hb.progress, hb.reports, ?_, hb.keypressesDropped, hb.bucketsWritten,
        hb.bucketsDropped⟩
      · rw [requested_snoc, hreq, Int.add_zero, hb.conserved k]
      · rw [requestedTotal_snoc, hcount, Nat.add_zero]
        exact hb.recorded

theorem Balanced.snoc (hb : Balanced clusterSize done c) {op : CycleOp}
    (hreq : ∀ k, requestedBy clusterSize k op = 0) (hcount : requestedCount op = 0) :
    Balanced clusterSize (done ++ [op]) c := by
  refine ⟨hb.width, fun k ↦ ?_, hb.progress, hb.reports, ?_, hb.keypressesDropped, hb.bucketsWritten, hb.bucketsDropped⟩
  · rw [requested_snoc, hreq, Int.add_zero]
    exact hb.conserved k
  · rw [requestedTotal_snoc, hcount, Nat.add_zero]
    exact hb.recorded

theorem Balanced.swap (hb : Balanced clusterSize done c) (h : c.step .swap = .ok c') :
    Balanced clusterSize done c' := by
  cases hi : c.inflight with
  | some f =>
    simp only [Cycle.step, hi] at h
    cases h
    exact hb
  | none =>
    simp only [Cycle.step, hi] at h
    cases h
    refine ⟨hb.width, fun k ↦ ?_, fun f hf ↦ ?_, hb.reports, hb.recorded, hb.keypressesDropped, hb.bucketsWritten,
      hb.bucketsDropped⟩
    · rw [hb.conserved k]
      simp only [Cycle.inflightOf, hi, countOf_toList, Std.TreeMap.getD_emptyc]
      omega
    · cases hf
      exact ⟨rfl, by simp, by simp [total], fun _ ↦ rfl⟩

theorem Balanced.write (hb : Balanced clusterSize done c) (h : c.step .write = .ok c') :
    Balanced clusterSize done c' := by
  cases hi : c.inflight with
  | none =>
    simp only [Cycle.step, hi] at h
    cases h
    exact hb
  | some f =>
    obtain ⟨snap, rest, r⟩ := f
    cases rest with
    | nil =>
      simp only [Cycle.step, hi] at h
      cases h
      exact hb
    | cons e rest =>
      obtain ⟨k₀, n⟩ := e
      simp only [Cycle.step, hi, bind, Except.bind] at h
      cases hw : Aggregator.commitKey (c.store, r) (k₀, n) with
      | error e =>
        rw [hw] at h
        cases h
      | ok res =>
        obtain ⟨store', r'⟩ := res
        rw [hw] at h
        cases h
        have hspec := commitKey_memory hw
        have hp := hb.progress _ hi
        have hcons : ∀ k, countOf ((k₀, n) :: rest) k = (if k₀ = k then n else 0) + countOf rest k :=
          countOf_cons (k₀, n) rest
        by_cases hf : c.store.failing.contains k₀.group = true
        · rw [if_pos hf] at hspec
          obtain ⟨rfl, rfl⟩ := hspec
          rw [if_pos hf]
          refine ⟨hb.width, fun k ↦ ?_, fun f hf' ↦ ?_, hb.reports, hb.recorded, hb.keypressesDropped,
            hb.bucketsWritten, hb.bucketsDropped⟩
          · rw [hb.conserved k]
            simp only [Cycle.inflightOf, hi, Ledger.drop, hcons, Function.update_apply]
            by_cases hk : k = k₀
            · subst hk
              simp only [if_true]
              omega
            · simp only [hk, if_false, Ne.symm hk]
              omega
          · cases hf'
            refine ⟨hp.buckets, ?_, ?_, fun h0 ↦ by simp at h0⟩
            · have := hp.keys
              simp only [List.length_cons] at this
              dsimp only
              omega
            · have := hp.presses
              simp only [total, List.foldr_cons] at this ⊢
              omega
        · rw [if_neg hf] at hspec
          obtain ⟨rfl, rfl⟩ := hspec
          rw [if_neg hf]
          refine ⟨hb.width, fun k ↦ ?_, fun f hf' ↦ ?_, hb.reports, hb.recorded, hb.keypressesDropped,
            hb.bucketsWritten, hb.bucketsDropped⟩
          · rw [hb.conserved k]
            simp only [Cycle.inflightOf, hi, hcons, MemoryStore.countFor, getD_insert_key]
            by_cases hk : k₀ = k
            · subst hk
              simp only [if_true]
              omega
            · simp only [hk, if_false]
              omega
          · cases hf'
            refine ⟨hp.buckets, ?_, ?_, hp.quiet⟩
            · have := hp.keys
              simp only [List.length_cons] at this
              dsimp only
              omega
            · have := hp.presses
              simp only [total, List.foldr_cons] at this ⊢
              omega

theorem commitStats_counts (stats : Stats.Counters) (r : CommitReport)
    (hempty : r.buckets = 0 → r.written = 0 ∧ r.failed = 0) (hquiet : r.failed = 0 → r.keypressesDropped = 0) :
    (Cycle.commitStats stats r).keypressesRecorded = stats.keypressesRecorded ∧
    (Cycle.commitStats stats r).bucketsWritten = r.written + stats.bucketsWritten ∧
    (Cycle.commitStats stats r).bucketsDropped = r.failed + stats.bucketsDropped ∧
    ∀ D, stats.keypressesDropped = D % Nat.pow 2 64 →
      (Cycle.commitStats stats r).keypressesDropped = (r.keypressesDropped.toNat + D) % Nat.pow 2 64 := by
  unfold Cycle.commitStats
  split
  case isTrue h0 =>
    obtain ⟨hw, hf⟩ := hempty (by simpa using h0)
    refine ⟨rfl, by rw [hw, Nat.zero_add], by rw [hf, Nat.zero_add], fun D hD ↦ ?_⟩
    rw [hquiet hf, Int.toNat_zero, Nat.zero_add]
    exact hD
  case isFalse =>
    unfold Stats.Counters.recordCommit
    split
    case isTrue =>
      refine ⟨rfl, Nat.add_comm _ _, Nat.add_comm _ _, fun D hD ↦ ?_⟩
      show (stats.keypressesDropped + r.keypressesDropped.toNat) % Nat.pow 2 64 = _
      rw [hD, Nat.mod_add_mod, Nat.add_comm]
    case isFalse hf =>
      have hf0 : r.failed = 0 := by omega
      refine ⟨rfl, Nat.add_comm _ _, by rw [hf0, Nat.zero_add], fun D hD ↦ ?_⟩
      rw [hquiet hf0, Int.toNat_zero, Nat.zero_add]
      exact hD

theorem Balanced.finish (hb : Balanced clusterSize done c) (h : c.step .finish = .ok c') :
    Balanced clusterSize done c' := by
  cases hi : c.inflight with
  | none =>
    simp only [Cycle.step, hi] at h
    cases h
    exact hb
  | some f =>
    obtain ⟨snap, rest, r⟩ := f
    cases rest with
    | cons e rest =>
      simp only [Cycle.step, hi] at h
      cases h
      exact hb
    | nil =>
      simp only [Cycle.step, hi] at h
      cases h
      have hp := hb.progress _ hi
      have hkeys : r.written + r.failed = snap.length := by
        have := hp.keys
        simpa using this
      have hpress : r.keypressesWritten + r.keypressesDropped = total snap := by
        have := hp.presses
        simpa [total] using this
      have hbuckets : r.buckets = snap.length := hp.buckets
      obtain ⟨hrec, hwr, hdr, hkd⟩ := commitStats_counts c.stats r (fun h0 ↦ by omega) hp.quiet
      refine ⟨hb.width, fun k ↦ ?_, fun f hf ↦ (by cases hf), fun p hmem ↦ ?_, hrec.trans hb.recorded,
        hkd _ hb.keypressesDropped, ?_, ?_⟩
      · rw [hb.conserved k]
        simp [Cycle.inflightOf, hi, countOf]
      · rcases List.mem_cons.mp hmem with rfl | hmem
        · exact ⟨show r.buckets = r.written + r.failed by omega, hpress⟩
        · exact hb.reports p hmem
      · rw [hwr, hb.bucketsWritten]
        rfl
      · rw [hdr, hb.bucketsDropped]
        rfl

theorem failGroup_counts (m : MemoryStore) (g : GroupId) : (m.failGroup g).counts = m.counts := by
  unfold MemoryStore.failGroup
  split <;> rfl

theorem failGroup_clusterSize (m : MemoryStore) (g : GroupId) : (m.failGroup g).clusterSize = m.clusterSize := by
  unfold MemoryStore.failGroup
  split <;> rfl

theorem Balanced.fail (hb : Balanced clusterSize done c) (g : GroupId) :
    Balanced clusterSize done { c with store := c.store.failGroup g } := by
  refine ⟨(failGroup_clusterSize _ _).trans hb.width, fun k ↦ ?_, hb.progress, hb.reports, hb.recorded,
    hb.keypressesDropped, hb.bucketsWritten, hb.bucketsDropped⟩
  rw [hb.conserved k]
  simp only [MemoryStore.countFor, failGroup_counts]
  rfl

theorem Balanced.heal (hb : Balanced clusterSize done c) : Balanced clusterSize done { c with store := c.store.heal } :=
  ⟨hb.width, hb.conserved, hb.progress, hb.reports, hb.recorded, hb.keypressesDropped, hb.bucketsWritten,
    hb.bucketsDropped⟩

theorem Balanced.step (hb : Balanced clusterSize done c) {op : CycleOp} (h : c.step op = .ok c') :
    Balanced clusterSize (done ++ [op]) c' := by
  cases op with
  | record group ts count => exact hb.record h
  | swap => exact (hb.swap h).snoc (fun _ ↦ rfl) rfl
  | write => exact (hb.write h).snoc (fun _ ↦ rfl) rfl
  | finish => exact (hb.finish h).snoc (fun _ ↦ rfl) rfl
  | fail g =>
    cases h
    exact (hb.fail g).snoc (fun _ ↦ rfl) rfl
  | heal =>
    cases h
    exact hb.heal.snoc (fun _ ↦ rfl) rfl

theorem Balanced.run : ∀ (ops : List CycleOp) {done : List CycleOp} {c c' : Cycle},
    Balanced clusterSize done c → ops.foldlM Cycle.step c = .ok c' → Balanced clusterSize (done ++ ops) c'
  | [], done, c, c', hb, h => by
    cases h
    rw [List.append_nil]
    exact hb
  | op :: ops, done, c, c', hb, h => by
    rw [List.foldlM_cons] at h
    cases hs : c.step op with
    | error e =>
      rw [hs] at h
      cases h
    | ok c₁ =>
      rw [hs] at h
      have := Balanced.run ops (hb.step hs) h
      rwa [List.append_assoc, List.singleton_append] at this

end Steps

theorem writes_alone : ∀ (entries : List (Key × Int)) (c : Cycle) (snap : List (Key × Int))
    (r₀ r' : CommitReport) (s' : MemoryStore), c.inflight = some ⟨snap, entries, r₀⟩ →
    entries.foldlM Aggregator.commitKey (c.store, r₀) = .ok (s', r') →
    ∃ c', (List.replicate entries.length CycleOp.write).foldlM Cycle.step c = .ok c' ∧ c'.store = s' ∧
      c'.inflight = some ⟨snap, [], r'⟩ ∧ c'.cache = c.cache ∧ c'.stats = c.stats
  | [], c, snap, r₀, r', s', hi, h => by
    cases h
    exact ⟨c, rfl, rfl, hi, rfl, rfl⟩
  | (k, n) :: es, c, snap, r₀, r', s', hi, h => by
    rw [List.foldlM_cons] at h
    cases hk : Aggregator.commitKey (c.store, r₀) (k, n) with
    | error e =>
      rw [hk] at h
      cases h
    | ok sr =>
      obtain ⟨s₁, r₁⟩ := sr
      rw [hk] at h
      have hstep : c.step .write =
          .ok { c with store := s₁, inflight := some ⟨snap, es, r₁⟩,
                       ledger := if c.store.failing.contains k.group then c.ledger.drop k n
                         else c.ledger } := by
        simp only [Cycle.step, hi, bind, Except.bind, hk]
        rfl
      simp only [bind, Except.bind] at h
      generalize hc₁ : ({ c with store := s₁, inflight := some ⟨snap, es, r₁⟩,
                                 ledger := _ } : Cycle) = c₁ at hstep
      obtain ⟨c', h', hs', hi', hc', hst'⟩ :=
        writes_alone es c₁ snap r₁ r' s' (by rw [← hc₁]) (by rw [← hc₁]; exact h)
      refine ⟨c', ?_, hs', hi', hc'.trans (by rw [← hc₁]), hst'.trans (by rw [← hc₁])⟩
      rw [List.length_cons, List.replicate_succ, List.foldlM_cons, hstep]
      exact h'

theorem commit_alone (c : Cycle) (hi : c.inflight = none) {r : CommitReport} {s : MemoryStore}
    {a : Aggregator} {st : Stats.Counters} (h : c.cache.commit c.store c.stats = .ok (r, s, a, st)) :
    ∃ c', ([CycleOp.swap] ++ List.replicate c.cache.pending.toList.length CycleOp.write ++
        [CycleOp.finish]).foldlM Cycle.step c = .ok c' ∧
      c'.store = s ∧ c'.cache = a ∧ c'.stats = st ∧ c'.inflight = none ∧
      c'.ledger.commits.head? = some (r, c.cache.pending.toList) := by
  simp only [Aggregator.commit, bind, Except.bind] at h
  cases hf : c.cache.pending.toList.foldlM Aggregator.commitKey
      (c.store, { buckets := c.cache.pending.toList.length }) with
  | error e =>
    rw [hf] at h
    cases h
  | ok sr =>
    obtain ⟨s₁, r₁⟩ := sr
    rw [hf] at h
    simp only [pure, Except.pure, Except.ok.injEq, Prod.mk.injEq] at h
    obtain ⟨rfl, rfl, rfl, rfl⟩ := h
    have hswap : c.step .swap =
        .ok { c with cache := {},
                     inflight := some ⟨c.cache.pending.toList, c.cache.pending.toList,
                       { buckets := c.cache.pending.toList.length }⟩ } := by
      simp only [Cycle.step, hi]
      rfl
    generalize hc₀ : ({ c with cache := {},
                               inflight := some ⟨_, _, _⟩ } : Cycle) = c₀ at hswap
    obtain ⟨c₁, hw, hs₁, hi₁, hc₁, hst₁⟩ :=
      writes_alone _ c₀ _ _ _ _ (by rw [← hc₀]) (by rw [← hc₀]; exact hf)
    refine ⟨{ c₁ with stats := Cycle.commitStats c₁.stats r₁, inflight := none,
                      ledger := { c₁.ledger with
                                  commits := (r₁, c.cache.pending.toList) :: c₁.ledger.commits } },
      ?_, hs₁, hc₁.trans (by rw [← hc₀]), ?_, rfl, rfl⟩
    · rw [List.append_assoc, List.singleton_append, List.foldlM_cons, hswap]
      simp only [bind, Except.bind]
      rw [List.foldlM_append, hw]
      simp only [bind, Except.bind, List.foldlM_cons, List.foldlM_nil, Cycle.step, hi₁]
      rfl
    · rw [hst₁, ← hc₀]
      rfl

/-- In every run of the cycle that no fault ends (no bucket start and no running sum leaves the
word range), whatever the interleaving of records from any number of threads, commits and
changes of the refused groups: once no commit is in progress, for every key, the key presses
asked for are those the store counts, those pending and those dropped; every finished commit's
report counts each key it took as written or failed and splits its snapshot's total between
written and dropped key presses; and the statistics count the key presses asked for, the key
presses the reports dropped (both as words that wrap at 2^64), and the buckets the reports
wrote and dropped. -/
theorem cycle_conserves_keypresses (clusterSize : Int) (ops : List CycleOp) (c : Cycle)
    (hrun : Cycle.run clusterSize ops = .ok c) :
    (c.inflight = none → ∀ k, requested clusterSize ops k =
      c.store.countFor k.bucket k.group + c.cache.pending.getD k 0 + c.ledger.dropped k) ∧
    (∀ p ∈ c.ledger.commits, p.1.buckets = p.1.written + p.1.failed ∧
      p.1.keypressesWritten + p.1.keypressesDropped = total p.2) ∧
    c.stats.keypressesRecorded = requestedTotal ops % Nat.pow 2 64 ∧
    c.stats.keypressesDropped = c.ledger.droppedTotal % Nat.pow 2 64 ∧
    c.stats.bucketsWritten = c.ledger.writtenTotal ∧ c.stats.bucketsDropped = c.ledger.failedTotal := by
  have hb : Balanced clusterSize ops c := by
    simpa using Balanced.run ops (balanced_start clusterSize) hrun
  refine ⟨fun hi k ↦ ?_, hb.reports, hb.recorded, hb.keypressesDropped, hb.bucketsWritten, hb.bucketsDropped⟩
  rw [hb.conserved k]
  simp [Cycle.inflightOf, hi]

theorem cycle_conserves_refused_write :
    let ops : List CycleOp := [.record (some 1) 0 3, .swap, .fail 1, .record (some 1) 5 2, .write, .finish]
    ∃ c, Cycle.run 60 ops = .ok c ∧ c.inflight = none ∧ c.ledger.dropped ⟨0, 1⟩ = 3 ∧
      c.cache.pending.getD ⟨0, 1⟩ 0 = 2 ∧
      requested 60 ops ⟨0, 1⟩ = c.store.countFor 0 1 + c.cache.pending.getD ⟨0, 1⟩ 0 + c.ledger.dropped ⟨0, 1⟩ := by
  intro ops
  have hrun : Cycle.run 60 ops = .ok _ := rfl
  exact ⟨_, hrun, rfl, rfl, rfl, (cycle_conserves_keypresses 60 ops _ hrun).1 rfl ⟨0, 1⟩⟩

end KeystrokeTally.Tally
