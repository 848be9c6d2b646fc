import KeystrokeTally.Proofs.Graph.Arena

namespace KeystrokeTally.Proc.Graph

open Relation

def Link (g : Graph) (c p : Handle) : Prop := g.up c = some p

def above (g : Graph) : Nat → Handle → Option Handle
  | 0, x => some x
  | k + 1, x => (g.up x).bind (g.above k)

def Acyclic (g : Graph) : Prop := ∀ x, ¬ TransGen g.Link x x

variable {g : Graph} {a x y : Handle}

@[simp] theorem above_zero : g.above 0 x = some x := rfl

theorem above_succ (k : Nat) : g.above (k + 1) x = (g.up x).bind (g.above k) := rfl

theorem above_add (i d : Nat) : g.above (i + d) x = (g.above i x).bind (g.above d) := by
  induction i generalizing x with
  | zero => simp
  | succ i ih =>
    rw [Nat.add_right_comm, above_succ, above_succ, Option.bind_assoc]
    simp only [ih]

theorem above_one : g.above 1 = g.up := by
  funext y
  rw [above_succ]
  cases g.up y <;> rfl

theorem above_succ' (k : Nat) : g.above (k + 1) x = (g.above k x).bind g.up := by
  rw [above_add, above_one]

theorem reflTransGen_iff_above : ReflTransGen g.Link x a ↔ ∃ k, g.above k x = some a := by
  constructor
  · intro hr
    induction hr using ReflTransGen.head_induction_on with
    | refl => exact ⟨0, rfl⟩
    | head hxy _ ih =>
      obtain ⟨k, hk⟩ := ih
      exact ⟨k + 1, by rw [above_succ, hxy, Option.bind_some, hk]⟩
  · rintro ⟨k, hk⟩
    induction k generalizing x with
    | zero =>
      cases hk
      exact ReflTransGen.refl
    | succ k ih =>
      rw [above_succ] at hk
      obtain ⟨y, hy, hk⟩ := Option.bind_eq_some_iff.mp hk
      exact ReflTransGen.head hy (ih hk)

theorem transGen_of_above {k : Nat} (hk : g.above (k + 1) x = some a) : TransGen g.Link x a := by
  rw [above_succ] at hk
  obtain ⟨y, hy, hk⟩ := Option.bind_eq_some_iff.mp hk
  exact TransGen.head' hy (reflTransGen_iff_above.mpr ⟨k, hk⟩)

theorem live_of_above_succ {k : Nat} (hk : g.above (k + 1) x = some a) :
    ∃ y n, g.above k x = some y ∧ g.get? y = some n := by
  rw [above_succ'] at hk
  obtain ⟨y, hy, hup⟩ := Option.bind_eq_some_iff.mp hk
  obtain ⟨n, hn, -⟩ := Option.bind_eq_some_iff.mp hup
  exact ⟨y, n, hy, hn⟩

theorem above_injective (hacyc : g.Acyclic) {i j : Nat} (hij : i < j)
    (hi : g.above i x = some y) (hj : g.above j x = some y) : False := by
  obtain ⟨d, rfl⟩ := Nat.exists_eq_add_of_lt hij
  rw [Nat.add_assoc, above_add, hi, Option.bind_some] at hj
  exact hacyc y (transGen_of_above hj)

theorem above_le_size (hacyc : g.Acyclic) {k : Nat} (hk : g.above k x = some a) :
    k ≤ g.slots.size := by
  have hlive : ∀ i < k, ∃ y n, g.above i x = some y ∧ g.get? y = some n := by
    intro i hi
    obtain ⟨d, rfl⟩ := Nat.exists_eq_add_of_lt hi
    rw [show i + d + 1 = (i + 1) + d by omega, above_add] at hk
    obtain ⟨z, hz, -⟩ := Option.bind_eq_some_iff.mp hk
    exact live_of_above_succ hz
  let slot : Nat → Nat := fun i ↦ ((g.above i x).map (·.index)).getD 0
  have hcard := Finset.card_le_card_of_injOn (s := Finset.range k) (t := Finset.range g.slots.size)
    slot ?_ ?_
  · simpa using hcard
  · intro i hi
    obtain ⟨y, n, hy, hn⟩ := hlive i (by simpa using hi)
    simpa [slot, hy] using index_lt_of_get? hn
  · intro i hi j hj hs
    obtain ⟨y, n, hy, hn⟩ := hlive i (by simpa using hi)
    obtain ⟨z, m, hz, hm⟩ := hlive j (by simpa using hj)
    have hyz : y = z := eq_of_get?_index hn hm (by simpa [slot, hy, hz] using hs)
    subst hyz
    rcases Nat.lt_trichotomy i j with hlt | heq | hgt
    · exact (above_injective hacyc hlt hy hz).elim
    · exact heq
    · exact (above_injective hacyc hgt hz hy).elim

theorem linksUp_zero : g.linksUp a 0 x = (x == a) := by
  rw [linksUp.eq_def]
  dsimp only
  cases g.up x <;> simp

theorem linksUp_succ (fuel : Nat) :
    g.linksUp a (fuel + 1) x = (x == a || (g.up x).any (g.linksUp a fuel)) := by
  rw [linksUp.eq_def]
  dsimp only
  cases g.up x <;> rfl

theorem linksUp_iff (fuel : Nat) :
    g.linksUp a fuel x = true ↔ ∃ k ≤ fuel, g.above k x = some a := by
  induction fuel generalizing x with
  | zero =>
    rw [linksUp_zero, beq_iff_eq]
    constructor
    · rintro rfl
      exact ⟨0, le_rfl, rfl⟩
    · rintro ⟨k, hk, hx⟩
      obtain rfl : k = 0 := by omega
      simpa using hx
  | succ fuel ih =>
    rw [linksUp_succ]
    cases hup : g.up x with
    | none =>
      constructor
      · intro hl
        exact ⟨0, Nat.zero_le _, by simpa using hl⟩
      · rintro ⟨k, -, hk⟩
        cases k with
        | zero => simpa using hk
        | succ k => simp [above_succ, hup] at hk
    | some p =>
      simp only [Bool.or_eq_true, beq_iff_eq, Option.any_some, ih]
      constructor
      · rintro (rfl | ⟨k, hk, hp⟩)
        · exact ⟨0, Nat.zero_le _, rfl⟩
        · exact ⟨k + 1, by omega, by rw [above_succ, hup, Option.bind_some, hp]⟩
      · rintro ⟨k, hk, hx⟩
        cases k with
        | zero => exact Or.inl (by simpa using hx)
        | succ k =>
          rw [above_succ, hup, Option.bind_some] at hx
          exact Or.inr ⟨k, by omega, hx⟩

theorem isAncestor_iff (hacyc : g.Acyclic) :
    g.isAncestor a x = true ↔ ReflTransGen g.Link x a := by
  rw [isAncestor, linksUp_iff, reflTransGen_iff_above]
  constructor
  · rintro ⟨k, -, hk⟩
    exact ⟨k, hk⟩
  · rintro ⟨k, hk⟩
    exact ⟨k, above_le_size hacyc hk, hk⟩

end KeystrokeTally.Proc.Graph
