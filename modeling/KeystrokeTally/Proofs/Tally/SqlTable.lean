import Mathlib.Data.List.Sort
import KeystrokeTally.Tally.Database
import KeystrokeTally.Proofs.Tally.Cycle

namespace KeystrokeTally.Tally

theorem compare_key_lt (k k' : Key) :
    compare k k' = .lt ↔ k.bucket < k'.bucket ∨ (k.bucket = k'.bucket ∧ k.group < k'.group) := by
  obtain ⟨b, g⟩ := k
  obtain ⟨b', g'⟩ := k'
  show (compare b b').then ((compare g g').then .eq) = .lt ↔ _
  simp [Ordering.then_eq_lt, Int.compare_eq_lt]

theorem compare_key_self (k : Key) : compare k k = .eq := Std.ReflCmp.compare_self

theorem compare_key_swap (k k' : Key) : compare k k' = (compare k' k).swap := Std.OrientedCmp.eq_swap

theorem ne_of_compare_key_lt {k k' : Key} (h : compare k k' = .lt) : k ≠ k' := fun he ↦ by
  rw [he, compare_key_self] at h
  cases h

theorem key_lt_of_not (k k' : Key) (hne : k' ≠ k) (hn : ¬ compare k k' = .lt) : compare k' k = .lt := by
  rw [compare_key_swap]
  cases hc : compare k k' with
  | lt => exact absurd hc hn
  | eq => exact absurd (Std.LawfulEqCmp.eq_of_compare hc).symm hne
  | gt => rfl

def CounterRow.key (r : CounterRow) : Key := ⟨r.bucket, r.group⟩

def RowLt (r r' : CounterRow) : Prop := compare r.key r'.key = .lt

instance : Std.Irrefl RowLt := ⟨fun _ h ↦ ne_of_compare_key_lt h rfl⟩

instance : Std.Antisymm RowLt := ⟨fun a b h h' ↦ by
  rw [RowLt, compare_key_swap, h'] at h
  cases h⟩

def CounterRow.intCount (r : CounterRow) : Int :=
  match r.count with
  | .int n => n
  | .real _ => 0

def rowSum (rs : List CounterRow) : Int := rs.foldr (fun r s ↦ r.intCount + s) 0

def groupSum (rs : List CounterRow) (g : Int) : Int := rowSum (rs.filter (·.group == g))

theorem rowSum_perm {rs rs' : List CounterRow} (h : rs.Perm rs') : rowSum rs = rowSum rs' :=
  h.foldr_eq' (fun x _ y _ z ↦ Int.add_left_comm y.intCount x.intCount z) 0

theorem groupSum_perm {rs rs' : List CounterRow} (h : rs.Perm rs') (g : Int) : groupSum rs g = groupSum rs' g :=
  rowSum_perm (h.filter _)

/-- The tables an engine's upserts build from its empty table. -/
inductive CounterTable.Built {τ : Type} [CounterTable τ] : τ → Prop
  | empty : Built CounterTable.empty
  | upsert {t : τ} (b e g d : Int) : Built t → Built (CounterTable.upsert t b e g d)

/-- A table engine that runs the counter table's statements with their SQL meaning, read over
`rows`, the table's rows in no particular order, on every table its upserts build. The upsert adds
a row for a missing bucket start and group and otherwise adds exactly to the row's count, keeping
every other row; the key query reads a key's row; the range query lists the range's rows in key
order; the grouped sum over nonnegative integer counts gives each group once, ascending, and fails
with an integer overflow when some group's sum leaves the word. -/
class SqlCounterTable (τ : Type) [CounterTable τ] where
  rows : τ → List CounterRow
  rows_empty : rows CounterTable.empty = []
  upsert_new : ∀ {t : τ} {b g : Int} (e d : Int), CounterTable.Built t → (∀ r ∈ rows t, r.key ≠ ⟨b, g⟩) →
    (rows (CounterTable.upsert t b e g d)).Perm (⟨b, e, g, .int d⟩ :: rows t)
  upsert_add : ∀ {t : τ} {r : CounterRow} {n : Int} (e d : Int), CounterTable.Built t → r ∈ rows t →
    r.count = .int n → Word.Fits (n + d) →
    (rows (CounterTable.upsert t r.bucket e r.group d)).Perm
      ({ r with count := .int (n + d) } :: (rows t).filter (·.key ≠ r.key))
  countFor_row : ∀ {t : τ} {r : CounterRow}, CounterTable.Built t → r ∈ rows t →
    CounterTable.countFor t r.bucket r.group = (r.count.read 0 "count").map some
  countFor_none : ∀ {t : τ} {b g : Int}, CounterTable.Built t → (∀ r ∈ rows t, r.key ≠ ⟨b, g⟩) →
    CounterTable.countFor t b g = .ok none
  between_rows : ∀ {t : τ} (lo hi : Int), CounterTable.Built t →
    ∃ rs : List CounterRow, rs.Perm ((rows t).filter fun r ↦ lo ≤ r.bucket && r.bucket ≤ hi) ∧
      rs.Pairwise RowLt ∧ CounterTable.between t lo hi = rs.mapM CounterRow.read
  totals_sums : ∀ {t : τ}, CounterTable.Built t → (∀ r ∈ rows t, ∃ n, r.count = .int n ∧ 0 ≤ n) →
    ∃ gs : List Int, gs.Pairwise (· < ·) ∧ (∀ g, g ∈ gs ↔ ∃ r ∈ rows t, r.group = g) ∧
      CounterTable.totals t = if ∀ g ∈ gs, Word.Fits (groupSum (rows t) g)
        then .ok (gs.map fun g ↦ (g, groupSum (rows t) g)) else .error .overflow

namespace CounterFile

theorem matches_iff (r : CounterRow) (b g : Int) :
    (r.bucket == b && r.group == g) = true ↔ r.key = ⟨b, g⟩ := by
  simp [CounterRow.key]

theorem before_iff (r : CounterRow) (b g : Int) : before b g r = true ↔ compare (⟨b, g⟩ : Key) r.key = .lt := by
  rw [compare_key_lt]
  simp [before, CounterRow.key]

section Upsert

variable {b e g d : Int}

theorem mem_upsert_go : ∀ {rs : List CounterRow} {x : CounterRow},
    x ∈ upsert.go b e g d rs → x.key = ⟨b, g⟩ ∨ x ∈ rs
  | [], x, hx => by
    rw [upsert.go, List.mem_singleton] at hx
    exact Or.inl (hx ▸ rfl)
  | y :: ys, x, hx => by
    rw [upsert.go] at hx
    split at hx
    case isTrue hy =>
      rcases List.mem_cons.mp hx with rfl | hx
      · exact Or.inl ((matches_iff y b g).mp hy)
      · exact Or.inr (List.mem_cons_of_mem _ hx)
    case isFalse =>
      split at hx
      · rcases List.mem_cons.mp hx with rfl | hx
        · exact Or.inl rfl
        · exact Or.inr hx
      · rcases List.mem_cons.mp hx with rfl | hx
        · exact Or.inr List.mem_cons_self
        · exact (mem_upsert_go hx).imp_right (List.mem_cons_of_mem _)

theorem upsert_go_sorted : ∀ {rs : List CounterRow}, rs.Pairwise RowLt → (upsert.go b e g d rs).Pairwise RowLt
  | [], _ => List.pairwise_singleton _ _
  | x :: xs, hs => by
    rw [List.pairwise_cons] at hs
    rw [upsert.go]
    split
    case isTrue => exact List.pairwise_cons.mpr ⟨fun y hy ↦ hs.1 y hy, hs.2⟩
    case isFalse hx =>
      split
      case isTrue hlt =>
        have hlt : compare (⟨b, g⟩ : Key) x.key = .lt := (before_iff x b g).mp hlt
        refine List.pairwise_cons.mpr ⟨fun y hy ↦ ?_, List.pairwise_cons.mpr hs⟩
        rcases List.mem_cons.mp hy with rfl | hy
        · exact hlt
        · exact Std.TransCmp.lt_trans hlt (hs.1 y hy)
      case isFalse hlt =>
        have hxk : compare x.key ⟨b, g⟩ = .lt :=
          key_lt_of_not _ _ (mt (matches_iff x b g).mpr hx) (mt (before_iff x b g).mpr hlt)
        refine List.pairwise_cons.mpr ⟨fun y hy ↦ ?_, upsert_go_sorted hs.2⟩
        rcases mem_upsert_go hy with hy | hy
        · show compare x.key y.key = .lt
          rw [hy]
          exact hxk
        · exact hs.1 y hy

theorem upsert_go_new : ∀ {rs : List CounterRow}, (∀ r ∈ rs, r.key ≠ ⟨b, g⟩) →
    (upsert.go b e g d rs).Perm (⟨b, e, g, .int d⟩ :: rs)
  | [], _ => List.Perm.refl _
  | x :: xs, h => by
    rw [upsert.go, if_neg (mt (matches_iff x b g).mp (h x List.mem_cons_self))]
    split
    · exact List.Perm.refl _
    · exact ((upsert_go_new fun r hr ↦ h r (List.mem_cons_of_mem _ hr)).cons x).trans (List.Perm.swap _ _ _)

theorem upsert_go_add {r : CounterRow} {n : Int} (hr : r.count = .int n) (hfit : Word.Fits (n + d)) :
    ∀ {rs : List CounterRow}, rs.Pairwise RowLt → r ∈ rs →
      (upsert.go r.bucket e r.group d rs).Perm ({ r with count := .int (n + d) } :: rs.filter (·.key ≠ r.key))
  | x :: xs, hs, hmem => by
    rw [List.pairwise_cons] at hs
    rw [upsert.go]
    by_cases hx : x.key = r.key
    · have hxr : x = r := (List.mem_cons.mp hmem).elim Eq.symm
        fun h ↦ absurd hx (ne_of_compare_key_lt (hs.1 r h))
      subst hxr
      have hsum : storeCount ((StoredCount.int n).add (.int d)) = .int (n + d) := by
        simp [StoredCount.add, storeCount, hfit]
      have hrest : xs.filter (·.key ≠ x.key) = xs :=
        List.filter_eq_self.mpr fun y hy ↦ by simpa using (ne_of_compare_key_lt (hs.1 y hy)).symm
      rw [if_pos ((matches_iff x _ _).mpr rfl), List.filter_cons_of_neg (by simp), hrest, hr, hsum]
    · have hlt : compare x.key r.key = .lt := hs.1 r ((List.mem_cons.mp hmem).resolve_left fun h ↦ hx (h ▸ rfl))
      have hnb : ¬ before r.bucket r.group x = true := fun h ↦ by
        have h' : compare r.key x.key = .lt := (before_iff x _ _).mp h
        rw [compare_key_swap, hlt] at h'
        cases h'
      rw [if_neg (mt (matches_iff x _ _).mp hx), if_neg hnb, List.filter_cons_of_pos (by simpa using hx)]
      have hmem' : r ∈ xs := (List.mem_cons.mp hmem).resolve_left fun h ↦ hx (h ▸ rfl)
      exact ((upsert_go_add hr hfit hs.2 hmem').cons x).trans (List.Perm.swap _ _ _)

end Upsert

theorem built_sorted {t : CounterFile} (h : CounterTable.Built t) : t.rows.Pairwise RowLt := by
  induction h with
  | empty => exact List.Pairwise.nil
  | upsert b e g d _ ih => exact upsert_go_sorted ih

theorem find?_row {r : CounterRow} : ∀ {rs : List CounterRow}, rs.Pairwise RowLt → r ∈ rs →
    rs.find? (fun x ↦ x.bucket == r.bucket && x.group == r.group) = some r
  | x :: xs, hs, hmem => by
    rw [List.pairwise_cons] at hs
    by_cases hx : x.key = r.key
    · have hxr : x = r := (List.mem_cons.mp hmem).elim Eq.symm
        fun h ↦ absurd hx (ne_of_compare_key_lt (hs.1 r h))
      subst hxr
      exact List.find?_cons_of_pos ((matches_iff x _ _).mpr rfl)
    · rw [List.find?_cons_of_neg (p := fun x : CounterRow ↦ x.bucket == r.bucket && x.group == r.group)
        (mt (matches_iff x _ _).mp hx)]
      exact find?_row hs.2 ((List.mem_cons.mp hmem).resolve_left fun h ↦ hx (h ▸ rfl))

theorem countFor_row {t : CounterFile} {r : CounterRow} (hs : t.rows.Pairwise RowLt) (hr : r ∈ t.rows) :
    t.countFor r.bucket r.group = (r.count.read 0 "count").map some := by
  unfold countFor
  rw [find?_row hs hr]
  dsimp only
  cases r.count <;> rfl

theorem countFor_none {t : CounterFile} {b g : Int} (h : ∀ r ∈ t.rows, r.key ≠ ⟨b, g⟩) :
    t.countFor b g = .ok none := by
  unfold countFor
  rw [List.find?_eq_none.mpr fun r hr hm ↦ h r hr ((matches_iff r b g).mp hm)]
  rfl

theorem foldl_firstSeen (xs : List Int) : ∀ acc : List Int, acc.Nodup →
    (xs.foldl (fun acc g ↦ if acc.contains g then acc else acc ++ [g]) acc).Nodup ∧
      ∀ g, g ∈ xs.foldl (fun acc g ↦ if acc.contains g then acc else acc ++ [g]) acc ↔ g ∈ acc ∨ g ∈ xs := by
  induction xs with
  | nil => exact fun acc hacc ↦ ⟨hacc, fun g ↦ by simp⟩
  | cons x xs ih =>
    intro acc hacc
    by_cases hx : x ∈ acc
    · obtain ⟨hnd, hmem⟩ := ih acc hacc
      simp only [List.foldl_cons, List.contains_iff_mem.mpr hx, if_true]
      refine ⟨hnd, fun g ↦ ?_⟩
      rw [hmem, List.mem_cons]
      constructor
      · rintro (h | h)
        · exact Or.inl h
        · exact Or.inr (Or.inr h)
      · rintro (h | rfl | h)
        · exact Or.inl h
        · exact Or.inl hx
        · exact Or.inr h
    · have hx' : acc.contains x = false := by simpa using hx
      obtain ⟨hnd, hmem⟩ := ih (acc ++ [x]) (List.nodup_append.mpr ⟨hacc, List.nodup_singleton x,
        fun a ha b hb ↦ by rw [List.mem_singleton] at hb; subst hb; exact fun h ↦ hx (h ▸ ha)⟩)
      simp only [List.foldl_cons, hx', Bool.false_eq_true, if_false]
      refine ⟨hnd, fun g ↦ ?_⟩
      rw [hmem, List.mem_append, List.mem_singleton, List.mem_cons]
      tauto

theorem groups_spec (t : CounterFile) :
    t.groups.Pairwise (· < ·) ∧ ∀ g, g ∈ t.groups ↔ ∃ r ∈ t.rows, r.group = g := by
  let seen := (t.rows.map (·.group)).foldl (fun acc g ↦ if acc.contains g then acc else acc ++ [g]) []
  obtain ⟨hnd, hmem⟩ := foldl_firstSeen (t.rows.map (·.group)) [] List.nodup_nil
  have hsorted := @List.pairwise_mergeSort Int (fun a b ↦ decide (a ≤ b))
    (fun a b e hab hbe ↦ by simp only [decide_eq_true_eq] at *; omega)
    (fun a b ↦ by simp only [Bool.or_eq_true, decide_eq_true_eq]; omega) seen
  have hperm := List.mergeSort_perm seen fun a b : Int ↦ decide (a ≤ b)
  refine ⟨?_, fun g ↦ ?_⟩
  · exact (hsorted.and (hperm.nodup_iff.mpr hnd)).imp fun h ↦ by
      simp only [decide_eq_true_eq] at h
      omega
  · unfold CounterFile.groups
    rw [hperm.mem_iff, hmem, List.mem_map]
    simp

section Sums

variable {f : Int × Bool × Option Float → StoredCount → Int × Bool × Option Float}

theorem foldl_flag_stays (hstay : ∀ st x, st.2.1 = true → (f st x).2.1 = true) :
    ∀ (l : List StoredCount) st, st.2.1 = true → (l.foldl f st).2.1 = true
  | [], _, h => h
  | x :: l, st, h => foldl_flag_stays hstay l (f st x) (hstay st x h)

theorem rowSum_nonneg : ∀ {xs : List CounterRow}, (∀ r ∈ xs, ∃ n, r.count = .int n ∧ 0 ≤ n) → 0 ≤ rowSum xs
  | [], _ => Int.le_refl 0
  | r :: xs, h => by
    obtain ⟨n, hn, hn0⟩ := h r List.mem_cons_self
    have ih := rowSum_nonneg fun r' hr' ↦ h r' (List.mem_cons_of_mem _ hr')
    show 0 ≤ r.intCount + rowSum xs
    simp only [CounterRow.intCount, hn]
    omega

theorem foldl_flagged_sum
    (hok : ∀ s i, Word.Fits (s + i) → f (s, false, none) (.int i) = (s + i, false, none))
    (hbad : ∀ s i, ¬ Word.Fits (s + i) → (f (s, false, none) (.int i)).2.1 = true)
    (hstay : ∀ st x, st.2.1 = true → (f st x).2.1 = true) :
    ∀ (xs : List CounterRow) (s : Int), (∀ r ∈ xs, ∃ n, r.count = .int n ∧ 0 ≤ n) → 0 ≤ s → Word.Fits s →
      (Word.Fits (s + rowSum xs) → (xs.map (·.count)).foldl f (s, false, none) = (s + rowSum xs, false, none)) ∧
      (¬ Word.Fits (s + rowSum xs) → ((xs.map (·.count)).foldl f (s, false, none)).2.1 = true)
  | [], s, _, _, hs => ⟨fun _ ↦ by simp [rowSum], fun h ↦ absurd (by simpa [rowSum] using hs) h⟩
  | r :: xs, s, hint, hs, hfs => by
    obtain ⟨n, hn, hn0⟩ := hint r List.mem_cons_self
    have hxs : ∀ r' ∈ xs, ∃ n, r'.count = .int n ∧ 0 ≤ n := fun r' hr' ↦ hint r' (List.mem_cons_of_mem _ hr')
    have htot := rowSum_nonneg hxs
    have hsum : rowSum (r :: xs) = n + rowSum xs := by
      show r.intCount + rowSum xs = _
      simp only [CounterRow.intCount, hn]
    rw [hsum, List.map_cons, List.foldl_cons, hn]
    by_cases hfit : Word.Fits (s + n)
    · rw [hok s n hfit, ← Int.add_assoc]
      exact foldl_flagged_sum hok hbad hstay xs (s + n) hxs (by omega) hfit
    · refine ⟨fun h ↦ absurd ?_ hfit, fun _ ↦ foldl_flag_stays hstay _ _ (hbad s n hfit)⟩
      unfold Word.Fits Word.min Word.max at *
      omega

end Sums

section Totals

variable {t : CounterFile}

theorem groupTotal_eq (hint : ∀ r ∈ t.rows, ∃ n, r.count = .int n ∧ 0 ≤ n) (g : Int) :
    t.groupTotal g = if Word.Fits (groupSum t.rows g) then .ok (.int (groupSum t.rows g)) else .error .overflow := by
  have hint' : ∀ r ∈ t.rows.filter (·.group == g), ∃ n, r.count = .int n ∧ 0 ≤ n :=
    fun r hr ↦ hint r (List.mem_filter.mp hr).1
  have hzero : Word.Fits 0 := by unfold Word.Fits Word.min Word.max; omega
  unfold CounterFile.groupTotal groupSum
  dsimp only
  generalize hF : List.foldl _ ((0 : Int), false, (none : Option Float)) ((t.rows.filter (·.group == g)).map (·.count)) = F
  obtain ⟨hfits, hover⟩ : (Word.Fits (0 + rowSum (t.rows.filter (·.group == g))) →
      F = (0 + rowSum (t.rows.filter (·.group == g)), false, none)) ∧
      (¬ Word.Fits (0 + rowSum (t.rows.filter (·.group == g))) → F.2.1 = true) := by
    rw [← hF]
    refine foldl_flagged_sum ?hok ?hbad ?hstay _ 0 hint' (Int.le_refl 0) hzero
    case hok =>
      intro s i h
      simp [h]
    case hbad =>
      intro s i h
      simp [h]
    case hstay =>
      rintro ⟨s, ov, r⟩ x (h : ov = true)
      subst h
      cases x <;> cases r <;> simp
      split <;> rfl
  rw [Int.zero_add] at hfits hover
  by_cases hfit : Word.Fits (rowSum (t.rows.filter (·.group == g)))
  · rw [hfits hfit, if_pos hfit]
    rfl
  · rw [if_pos (hover hfit), if_neg hfit]

theorem totals_eq (hint : ∀ r ∈ t.rows, ∃ n, r.count = .int n ∧ 0 ≤ n) :
    t.totals = if ∀ g ∈ t.groups, Word.Fits (groupSum t.rows g)
      then .ok (t.groups.map fun g ↦ (g, groupSum t.rows g)) else .error .overflow := by
  unfold CounterFile.totals
  generalize t.groups = gs
  induction gs with
  | nil => rfl
  | cons g gs ih =>
    have hcons : (∀ g' ∈ g :: gs, Word.Fits (groupSum t.rows g')) ↔
        Word.Fits (groupSum t.rows g) ∧ ∀ g' ∈ gs, Word.Fits (groupSum t.rows g') := List.forall_mem_cons
    rw [List.mapM_cons, groupTotal_eq hint g, ih]
    by_cases hg : Word.Fits (groupSum t.rows g)
    · by_cases hall : ∀ g' ∈ gs, Word.Fits (groupSum t.rows g')
      · rw [if_pos hg, if_pos hall, if_pos (hcons.mpr ⟨hg, hall⟩)]
        rfl
      · rw [if_pos hg, if_neg hall, if_neg fun h ↦ hall (hcons.mp h).2]
        rfl
    · rw [if_neg hg, if_neg fun h ↦ hg (hcons.mp h).1]
      rfl

end Totals

end CounterFile

instance : SqlCounterTable CounterFile where
  rows := CounterFile.rows
  rows_empty := rfl
  upsert_new _ _ _ hnew := CounterFile.upsert_go_new hnew
  upsert_add _ _ hb hr hn hfit := CounterFile.upsert_go_add hn hfit (CounterFile.built_sorted hb) hr
  countFor_row hb hr := CounterFile.countFor_row (CounterFile.built_sorted hb) hr
  countFor_none _ h := CounterFile.countFor_none h
  between_rows _ _ hb := ⟨_, List.Perm.refl _, (CounterFile.built_sorted hb).filter _, rfl⟩
  totals_sums _ hint := ⟨_, (CounterFile.groups_spec _).1, (CounterFile.groups_spec _).2, CounterFile.totals_eq hint⟩

end KeystrokeTally.Tally
