import Mathlib.Data.Finset.Card
import KeystrokeTally.Proc.Graph.Remove

namespace KeystrokeTally.Proc

/-- A slot as far as the arena's bookkeeping is concerned: its generation and whether it is
filled. -/
def Slot.shape (s : Slot) : UInt32 × Bool := (s.generation, s.node.isSome)

namespace Graph

variable {g : Graph} {h x : Handle} {n : Node} {f : Node → Node}

theorem handle_eq_of {a b : Handle} (hi : a.index = b.index) (hg : a.generation = b.generation) :
    a = b := by
  cases a
  cases b
  simp_all

theorem get?_eq_some_iff :
    g.get? h = some n ↔ ∃ s, g.slots[h.index]? = some s ∧ s.generation = h.generation ∧
      s.node = some n := by
  unfold get?
  constructor
  · intro hs
    obtain ⟨s, hs, hn⟩ := Option.bind_eq_some_iff.mp hs
    by_cases hgen : s.generation = h.generation
    · exact ⟨s, hs, hgen, by simpa [hgen] using hn⟩
    · simp [hgen] at hn
  · rintro ⟨s, hs, hgen, hn⟩
    simp [hs, hgen, hn]

theorem eq_of_get?_index (ha : g.get? h = some n) (hb : g.get? x = some n')
    (hi : h.index = x.index) : h = x := by
  obtain ⟨s, hs, hg, -⟩ := get?_eq_some_iff.mp ha
  obtain ⟨s', hs', hg', -⟩ := get?_eq_some_iff.mp hb
  rw [hi, hs'] at hs
  cases hs
  exact handle_eq_of hi (hg.symm.trans hg')

theorem index_lt_of_get? (hx : g.get? x = some n) : x.index < g.slots.size := by
  obtain ⟨s, hs, -⟩ := get?_eq_some_iff.mp hx
  exact (Array.getElem?_eq_some_iff.mp hs).1

theorem getElem?_insert_pid {β : Type} {t : Std.TreeMap Pid β compare} {k a : Pid} {v : β} :
    (t.insert k v)[a]? = if k = a then some v else t[a]? := by
  simp [Std.TreeMap.getElem?_insert]

theorem getElem?_erase_pid {β : Type} {t : Std.TreeMap Pid β compare} {k a : Pid} :
    (t.erase k)[a]? = if k = a then none else t[a]? := by
  simp [Std.TreeMap.getElem?_erase]

@[simp] theorem update_free : (g.update h f).free = g.free := rfl

@[simp] theorem update_index : (g.update h f).index = g.index := rfl

@[simp] theorem update_epoch : (g.update h f).epoch = g.epoch := rfl

@[simp] theorem update_slots_size : (g.update h f).slots.size = g.slots.size := by
  simp [update]

theorem get?_update :
    (g.update h f).get? x = if x = h then (g.get? h).map f else g.get? x := by
  unfold update get?
  simp only [Array.getElem?_modify]
  by_cases hx : x = h
  · subst hx
    cases g.slots[x.index]? with
    | none => simp
    | some s => by_cases hg : s.generation = x.generation <;> simp [hg]
  · rw [if_neg hx]
    by_cases hi : h.index = x.index
    · cases g.slots[x.index]? with
      | none => simp
      | some s =>
        by_cases hg : s.generation = h.generation
        · have hg' : ¬ h.generation = x.generation := fun hg' ↦ hx (handle_eq_of hi.symm hg'.symm)
          simp [hi, hg, hg']
        · simp [hi, hg]
    · simp [hi]

@[simp] theorem get?_update_self : (g.update h f).get? h = (g.get? h).map f := by
  simp [get?_update]

theorem get?_update_of_ne (hx : x ≠ h) : (g.update h f).get? x = g.get? x := by
  simp [get?_update, hx]

theorem get?_update_eq_some {m' : Node} (hx : (g.update h f).get? x = some m') :
    ∃ m, g.get? x = some m ∧ m' = if x = h then f m else m := by
  rw [get?_update] at hx
  split at hx
  · subst x
    obtain ⟨m, hm, rfl⟩ := Option.map_eq_some_iff.mp hx
    exact ⟨m, hm, by simp⟩
  · exact ⟨m', hx, by simp [*]⟩

theorem update_slot (i : Nat) :
    ((g.update h f).slots[i]?).map Slot.shape = (g.slots[i]?).map Slot.shape := by
  unfold update
  simp only [Array.getElem?_modify]
  split
  · cases g.slots[i]? with
    | none => rfl
    | some s =>
      simp only [Option.map_some, Slot.shape]
      split <;> simp
  · rfl

theorem countP_modify {α : Type} {p : α → Bool} {f : α → α} (hf : ∀ a, p (f a) = p a)
    (xs : Array α) (i : Nat) : (xs.modify i f).countP p = xs.countP p := by
  rw [← Array.countP_toList, Array.toList_modify, ← Array.countP_toList]
  induction xs.toList generalizing i with
  | nil => simp
  | cons a l ih =>
    cases i with
    | zero => simp [List.countP_cons, hf]
    | succ i => simp [List.countP_cons, ih]

theorem countP_modify_add {α : Type} {p : α → Bool} {f : α → α} {xs : Array α} {i : Nat}
    {a : α} (hi : xs[i]? = some a) :
    (xs.modify i f).countP p + (if p a then 1 else 0) = xs.countP p + (if p (f a) then 1 else 0) := by
  rw [← Array.countP_toList, Array.toList_modify, ← Array.countP_toList]
  rw [← Array.getElem?_toList] at hi
  generalize xs.toList = l at hi ⊢
  induction l generalizing i with
  | nil => simp at hi
  | cons b l ih =>
    cases i with
    | zero =>
      simp only [List.getElem?_cons_zero, Option.some.injEq] at hi
      subst hi
      simp only [List.modify_zero_cons, List.countP_cons]
      split <;> split <;> omega
    | succ i =>
      simp only [List.getElem?_cons_succ] at hi
      have := ih hi
      simp only [List.modify_succ_cons, List.countP_cons]
      omega

theorem liveCount_update : (g.update h f).slots.countP (·.node.isSome) =
    g.slots.countP (·.node.isSome) := by
  refine countP_modify (fun s ↦ ?_) _ _
  split <;> simp

def EmptySlot (g : Graph) (i : Nat) : Prop := ∃ s, g.slots[i]? = some s ∧ s.node = none

def FreeEmpty (g : Graph) : Prop := ∀ i ∈ g.free, g.EmptySlot i

theorem alloc_index_eq : (g.alloc n).1.index = g.index := by
  unfold alloc
  split <;> rfl

theorem alloc_epoch : (g.alloc n).1.epoch = g.epoch := by
  unfold alloc
  split <;> rfl

theorem alloc_free : (g.alloc n).1.free = g.free.tail := by
  unfold alloc
  split <;> simp_all

theorem alloc_slots (hfree : g.FreeEmpty) (i : Nat) :
    (g.alloc n).1.slots[i]? =
      if i = (g.alloc n).2.index then some ⟨(g.alloc n).2.generation, some n⟩ else g.slots[i]? := by
  unfold alloc
  split
  · next j rest hj =>
    obtain ⟨t, ht, -⟩ := hfree j (by simp [hj])
    simp only [Array.getElem?_modify]
    by_cases hi : i = j
    · subst hi
      simp [ht]
    · simp [Ne.symm hi, hi]
  · simp [Array.getElem?_push]

theorem alloc_slot_empty (hfree : g.FreeEmpty) {s : Slot}
    (hs : g.slots[(g.alloc n).2.index]? = some s) : s.node = none := by
  revert hs
  unfold alloc
  split
  · next j rest hj =>
    obtain ⟨t, ht, hn⟩ := hfree j (by simp [hj])
    intro hs
    rw [ht] at hs
    cases hs
    exact hn
  · simp

theorem get?_alloc_handle (hfree : g.FreeEmpty) : g.get? (g.alloc n).2 = none := by
  cases hg : g.get? (g.alloc n).2 with
  | none => rfl
  | some m =>
    obtain ⟨s, hs, -, hn⟩ := get?_eq_some_iff.mp hg
    rw [alloc_slot_empty hfree hs] at hn
    cases hn

theorem get?_alloc (hfree : g.FreeEmpty) :
    (g.alloc n).1.get? x = if x = (g.alloc n).2 then some n else g.get? x := by
  by_cases hx : x = (g.alloc n).2
  · subst hx
    simp [get?, alloc_slots hfree]
  · rw [if_neg hx]
    by_cases hi : x.index = (g.alloc n).2.index
    · have hgen : ¬ (g.alloc n).2.generation = x.generation := fun hgen ↦ hx (handle_eq_of hi hgen.symm)
      have hnone : g.get? x = none := by
        cases hg : g.get? x with
        | none => rfl
        | some m =>
          obtain ⟨s, hs, -, hn⟩ := get?_eq_some_iff.mp hg
          rw [hi] at hs
          rw [alloc_slot_empty hfree hs] at hn
          cases hn
      rw [hnone]
      simp [get?, alloc_slots hfree, hi, hgen]
    · simp only [get?, alloc_slots hfree, hi, if_false]

theorem emptySlot_alloc (hfree : g.FreeEmpty) {i : Nat} :
    (g.alloc n).1.EmptySlot i ↔ g.EmptySlot i ∧ i ≠ (g.alloc n).2.index := by
  unfold EmptySlot
  rw [alloc_slots hfree]
  by_cases hi : i = (g.alloc n).2.index
  · simp [hi]
  · simp [hi]

theorem liveCount_alloc (hfree : g.FreeEmpty) :
    (g.alloc n).1.slots.countP (·.node.isSome) = g.slots.countP (·.node.isSome) + 1 := by
  unfold alloc
  split
  · next j rest hj =>
    obtain ⟨t, ht, hn⟩ := hfree j (by simp [hj])
    have := countP_modify_add (p := (·.node.isSome)) (f := fun s ↦ { s with node := some n }) ht
    simpa [hn] using this
  · simp

theorem release_index : (g.release h).index = g.index := by
  unfold release
  split
  · split <;> rfl
  · rfl

theorem release_epoch : (g.release h).epoch = g.epoch := by
  unfold release
  split
  · split <;> rfl
  · rfl

section Release

variable {m : Node} (hh : g.get? h = some m)
include hh

theorem release_free : (g.release h).free = h.index :: g.free := by
  obtain ⟨s, hs, hg, -⟩ := get?_eq_some_iff.mp hh
  simp [release, hs, hg]

theorem release_slots (i : Nat) :
    (g.release h).slots[i]? =
      if i = h.index then some ⟨h.generation + 1, none⟩ else g.slots[i]? := by
  obtain ⟨s, hs, hg, -⟩ := get?_eq_some_iff.mp hh
  simp only [release, hs, hg, if_true, Array.getElem?_modify]
  by_cases hi : i = h.index
  · subst hi
    simp [hs, hg]
  · simp [hi, Ne.symm hi]

theorem get?_release : (g.release h).get? x = if x = h then none else g.get? x := by
  by_cases hi : x.index = h.index
  · have hx : (g.release h).get? x = none := by
      simp only [get?, release_slots hh, hi, if_true, Option.bind_some]
      by_cases hgen : h.generation + 1 = x.generation <;> simp [hgen]
    rw [hx]
    by_cases hxh : x = h
    · simp [hxh]
    · rw [if_neg hxh]
      cases hg : g.get? x with
      | none => rfl
      | some m' => exact absurd (eq_of_get?_index hg hh hi) hxh
  · have hxh : x ≠ h := fun e ↦ hi (by rw [e])
    simp only [get?, release_slots hh, hi, if_false, hxh]

theorem emptySlot_release {i : Nat} : (g.release h).EmptySlot i ↔ g.EmptySlot i ∨ i = h.index := by
  unfold EmptySlot
  rw [release_slots hh]
  by_cases hi : i = h.index
  · simp [hi]
  · simp [hi]

theorem liveCount_release :
    (g.release h).slots.countP (·.node.isSome) + 1 = g.slots.countP (·.node.isSome) := by
  obtain ⟨s, hs, hg, hn⟩ := get?_eq_some_iff.mp hh
  have := countP_modify_add (p := (·.node.isSome)) (f := fun s ↦ ⟨s.generation + 1, none⟩) hs
  simpa [release, hs, hg, hn] using this

end Release

end Graph

end KeystrokeTally.Proc
