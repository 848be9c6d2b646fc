import KeystrokeTally.Proofs.Tally.Cycle

namespace KeystrokeTally.Tally

open Classify (GroupId)

@[simp] theorem total_nil : total [] = 0 := rfl

theorem total_cons (e : Key × Int) (l : List (Key × Int)) : total (e :: l) = e.2 + total l := rfl

theorem total_perm {l l' : List (Key × Int)} (h : l.Perm l') : total l = total l' :=
  h.foldr_eq' (fun x _ y _ z ↦ Int.add_left_comm y.2 x.2 z) 0

theorem total_nonneg {l : List (Key × Int)} (h : ∀ e ∈ l, 0 < e.2) : 0 ≤ total l := by
  induction l with
  | nil => exact Int.le_refl 0
  | cons e l ih =>
    rw [total_cons]
    have he := h e List.mem_cons_self
    have hl := ih fun e' he' ↦ h e' (List.mem_cons_of_mem _ he')
    omega

theorem total_eq_countOf_add (l : List (Key × Int)) (k : Key) :
    total l = countOf l k + total (l.filter (¬k == ·.1)) := by
  induction l with
  | nil => rfl
  | cons e l ih =>
    rw [countOf_cons, List.filter_cons, total_cons]
    by_cases he : e.1 = k
    · have hdrop : (decide ¬(k == e.1) = true) = false := by simp [he]
      rw [if_pos he, hdrop, if_neg Bool.false_ne_true, ih]
      omega
    · have hkeep : (decide ¬(k == e.1) = true) = true := by simp [Ne.symm he]
      rw [if_neg he, hkeep, if_pos rfl, total_cons, ih]
      omega

theorem total_insert (t : Std.TreeMap Key Int compare) (k : Key) (v : Int) :
    total (t.insert k v).toList = total t.toList - t.getD k 0 + v := by
  rw [total_perm Std.TreeMap.toList_insert_perm, total_cons, total_eq_countOf_add t.toList k,
    countOf_toList]
  omega

theorem mem_toList_insert {t : Std.TreeMap Key Int compare} {k : Key} {v : Int} {e : Key × Int}
    (he : e ∈ (t.insert k v).toList) : e = (k, v) ∨ e ∈ t.toList := by
  rcases List.mem_cons.mp (Std.TreeMap.toList_insert_perm.mem_iff.mp he) with h | h
  · exact Or.inl h
  · exact Or.inr (List.mem_filter.mp h).1

def Aggregator.Positive (a : Aggregator) : Prop := ∀ e ∈ a.pending.toList, 0 < e.2

theorem positive_empty : ({} : Aggregator).Positive := fun e he ↦ by
  have hnone := Std.TreeMap.mem_toList_iff_getElem?_eq_some.mp (show (e.1, e.2) ∈ ({} : Aggregator).pending.toList from he)
  rw [show ({} : Aggregator).pending = ∅ from rfl, Std.TreeMap.getElem?_emptyc] at hnone
  cases hnone

/-- An empty cache holds no key press. -/
@[simp] theorem total_empty : total ({} : Aggregator).pending.toList = 0 := rfl

theorem Aggregator.Positive.getD_nonneg {a : Aggregator} (h : a.Positive) (k : Key) :
    0 ≤ a.pending.getD k 0 := by
  rw [Std.TreeMap.getD_eq_getD_getElem?]
  cases hk : a.pending[k]? with
  | none => exact Int.le_refl 0
  | some v => exact Int.le_of_lt (h (k, v) (Std.TreeMap.mem_toList_iff_getElem?_eq_some.mpr hk))

theorem Aggregator.Positive.total_nonneg {a : Aggregator} (h : a.Positive) : 0 ≤ total a.pending.toList :=
  Tally.total_nonneg h

theorem Aggregator.Positive.isEmpty {a : Aggregator} (h : a.Positive) (h0 : total a.pending.toList ≤ 0) :
    a.pending.isEmpty = true := by
  rw [← Std.TreeMap.isEmpty_toList]
  cases hl : a.pending.toList with
  | nil => rfl
  | cons e l =>
    have he := h e (by rw [hl]; exact List.mem_cons_self)
    have hrest : 0 ≤ total l := Tally.total_nonneg fun e' he' ↦ h e' (by rw [hl]; exact List.mem_cons_of_mem _ he')
    rw [hl, total_cons] at h0
    omega

section Record

variable {σ : Type} [CounterStore σ] {s : σ} {a a' : Aggregator} {stats stats' : Stats.Counters}
  {group : Option GroupId} {ts : Int} {ok : Bool}

theorem record_tally (h : a.record s stats group ts = .ok (ok, a', stats')) (hp : a.Positive) :
    (group.isSome ∧ ok = true ∧ a'.Positive ∧ total a'.pending.toList = total a.pending.toList + 1 ∧
      stats' = stats.recordKeypresses 1) ∨
    (group = none ∧ ok = false ∧ a' = a ∧ stats' = stats) := by
  rcases recordCount_ok h with ⟨hok, g, b, rfl, -, -, hpend, rfl⟩ | ⟨hok, rfl, rfl, hnone⟩
  · refine Or.inl ⟨rfl, hok, fun e he ↦ ?_, ?_, rfl⟩
    · rw [hpend] at he
      rcases mem_toList_insert he with rfl | he
      · have := hp.getD_nonneg ⟨b, g⟩
        show 0 < a.pending.getD ⟨b, g⟩ 0 + 1
        omega
      · exact hp e he
    · rw [hpend, total_insert]
      omega
  · rcases hnone with rfl | hc
    · exact Or.inr ⟨rfl, hok, rfl, rfl⟩
    · exact absurd hc (by decide)

end Record

section Commit

variable {σ : Type} [CounterStore σ]

theorem commitKey_report {s s' : σ} {r r' : CommitReport} {k : Key} {n : Int}
    (h : Aggregator.commitKey (s, r) (k, n) = .ok (s', r')) :
    r' = { r with written := r.written + 1, keypressesWritten := r.keypressesWritten + n } ∨
    r' = { r with failed := r.failed + 1, keypressesDropped := r.keypressesDropped + n } := by
  obtain ⟨b, g⟩ := k
  unfold Aggregator.commitKey at h
  cases hu : CounterStore.upsert s b g n with
  | error e =>
    simp only [bind, Except.bind, hu] at h
    cases h
  | ok res =>
    cases res with
    | ok s₁ =>
      cases hw : Word.add r.keypressesWritten n with
      | error e =>
        simp only [bind, Except.bind, hu, hw] at h
        cases h
      | ok w =>
        simp only [bind, Except.bind, pure, Except.pure, hu, hw, Except.ok.injEq, Prod.mk.injEq] at h
        rw [← h.2, Word.eq_of_add hw]
        exact Or.inl rfl
    | error e =>
      cases hd : Word.add r.keypressesDropped n with
      | error e =>
        simp only [bind, Except.bind, hu, hd] at h
        cases h
      | ok d =>
        simp only [bind, Except.bind, pure, Except.pure, hu, hd, Except.ok.injEq, Prod.mk.injEq] at h
        rw [← h.2, Word.eq_of_add hd]
        exact Or.inr rfl

theorem commitKeys_report : ∀ (entries : List (Key × Int)) (s s' : σ) (r r' : CommitReport),
    (∀ e ∈ entries, 0 < e.2) → entries.foldlM Aggregator.commitKey (s, r) = .ok (s', r') →
    r'.buckets = r.buckets ∧ r'.written + r'.failed = r.written + r.failed + entries.length ∧
      r'.keypressesWritten + r'.keypressesDropped = r.keypressesWritten + r.keypressesDropped + total entries ∧
      r.keypressesWritten ≤ r'.keypressesWritten ∧ r.keypressesDropped ≤ r'.keypressesDropped ∧
      r.failed ≤ r'.failed ∧ (r'.failed = r.failed → r'.keypressesDropped = r.keypressesDropped)
  | [], s, s', r, r', _, h => by
    cases h
    exact ⟨rfl, rfl, by rw [total_nil, Int.add_zero], Int.le_refl _, Int.le_refl _,
      Nat.le_refl _, fun _ ↦ rfl⟩
  | (k, n) :: es, s, s', r, r', hpos, h => by
    rw [List.foldlM_cons] at h
    cases hk : Aggregator.commitKey (s, r) (k, n) with
    | error e =>
      rw [hk] at h
      cases h
    | ok sr =>
      obtain ⟨s₁, r₁⟩ := sr
      simp only [hk, bind, Except.bind] at h
      have hn : 0 < n := hpos (k, n) List.mem_cons_self
      obtain ⟨hb, hkeys, hpress, hw, hd, hf, hq⟩ :=
        commitKeys_report es s₁ s' r₁ r' (fun e he ↦ hpos e (List.mem_cons_of_mem _ he)) h
      rw [List.length_cons, total_cons]
      rcases commitKey_report hk with hr₁ | hr₁
      · subst hr₁
        dsimp only at hb hkeys hpress hw hd hf hq
        exact ⟨hb, by omega, by omega, by omega, hd, hf, hq⟩
      · subst hr₁
        dsimp only at hb hkeys hpress hw hd hf hq
        exact ⟨hb, by omega, by omega, hw, by omega, by omega, fun hf' ↦ absurd hf' (by omega)⟩

/-- A finished commit's report balances: every key it took is written or failed, no key press
is counted negative, and key presses are dropped only by a failed write. -/
structure CommitReport.Sound (r : CommitReport) : Prop where
  keys : r.buckets = r.written + r.failed
  written_nonneg : 0 ≤ r.keypressesWritten
  dropped_nonneg : 0 ≤ r.keypressesDropped
  quiet : r.failed = 0 → r.keypressesDropped = 0

theorem snapshot_report {entries : List (Key × Int)} {s s' : σ} {r : CommitReport}
    (hpos : ∀ e ∈ entries, 0 < e.2)
    (h : entries.foldlM Aggregator.commitKey (s, { buckets := entries.length }) = .ok (s', r)) :
    r.Sound ∧ r.keypressesWritten + r.keypressesDropped = total entries := by
  obtain ⟨hb, hkeys, hpress, hw, hd, -, hq⟩ := commitKeys_report entries s s' _ r hpos h
  dsimp only at hb hkeys hpress hw hd hq
  exact ⟨⟨by omega, hw, hd, fun hf ↦ hq (by omega)⟩, by omega⟩

end Commit

end KeystrokeTally.Tally
