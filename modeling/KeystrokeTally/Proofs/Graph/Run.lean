import KeystrokeTally.Proofs.Graph.Removal
import KeystrokeTally.Proc.Graph.Render

namespace KeystrokeTally.Proc.Graph

open Relation

/-- The operations that change a process graph. -/
inductive Op where
  | upsert (e : Entry)
  | refresh (entries : List Entry)
  | remove (p : Pid) (alive : Pid → Bool)

def Op.apply (g : Graph) : Op → Graph
  | .upsert e => (g.upsert e).1
  | .refresh entries => (g.refresh entries).1
  | .remove p alive => (g.remove p alive).1

def Op.isRemove : Op → Bool
  | .remove _ _ => true
  | _ => false

def run (ops : List Op) : Graph := ops.foldl Op.apply empty

/-- The graphs some sequence of operations builds from the empty graph. -/
inductive Reachable : Graph → Prop
  | empty : Reachable empty
  | step {g : Graph} (op : Op) : Reachable g → Reachable (op.apply g)

theorem reachable_run (ops : List Op) : Reachable (run ops) := by
  suffices h : ∀ g, Reachable g → Reachable (ops.foldl Op.apply g) from h _ .empty
  induction ops with
  | nil => exact fun _ hg ↦ hg
  | cons op ops ih => exact fun g hg ↦ ih _ (.step op hg)

variable {g : Graph} {h x : Handle} {n : Node} {p : Pid}

theorem get?_empty : empty.get? x = if x = ⟨0, 0⟩ then some rootNode else none := by
  obtain ⟨i, gen⟩ := x
  cases i with
  | zero =>
    by_cases hg : gen = 0
    · subst hg
      rfl
    · simp [get?, empty, hg, Ne.symm hg]
  | succ i => simp [get?, empty]

theorem index_empty : (empty.index)[p]? = if p = rootPid then some ⟨0, 0⟩ else none := by
  simp only [empty, getElem?_insert_pid]
  split <;> simp_all [eq_comm]

theorem consistent_empty : empty.Consistent := by
  have hup : ∀ x, empty.up x = none := by
    intro x
    simp only [up, get?_empty]
    split <;> rfl
  have hlists : ∀ q y, ¬ empty.Lists q y := by
    rintro q y ⟨m, hm, hy⟩
    rw [get?_empty] at hm
    split at hm
    · cases hm
      cases hy
    · cases hm
  have hroot : empty.root = ⟨0, 0⟩ := by simp [root, index_empty]
  refine ⟨⟨?_, ?_, by simp [index_empty], List.nodup_nil, (fun _ h ↦ absurd h List.not_mem_nil), ?_, by decide⟩,
    ⟨⟨rootNode, by rw [hroot, get?_empty, if_pos rfl], rfl⟩, hup _, ?_, ?_, ?_, ?_, ?_, ?_⟩⟩
  · intro q y hq
    rw [index_empty] at hq
    split at hq
    · cases hq
      exact ⟨rootNode, by rw [get?_empty, if_pos rfl], by simp_all [rootNode]⟩
    · cases hq
  · intro y m hy
    rw [get?_empty] at hy
    split at hy
    · cases hy
      subst y
      rfl
    · cases hy
  · rintro i ⟨s, hs, hn⟩
    cases i with
    | zero =>
      cases hs
      cases hn
    | succ i => cases hs
  · intro c q hl
    rw [Link, hup] at hl
    cases hl
  · intro c q hl
    rw [Link, hup] at hl
    cases hl
  · intro q y hl
    exact absurd hl (hlists q y)
  · intro y m hy
    rw [get?_empty] at hy
    split at hy
    · cases hy
      exact List.nodup_nil
    · cases hy
  · intro y hy
    obtain ⟨z, hz, -⟩ := TransGen.head'_iff.mp hy
    rw [Link, hup] at hz
    cases hz
  · intro d hd
    cases hd

theorem Consistent.apply (hw : g.Consistent) : ∀ op : Op, (op.apply g).Consistent
  | .upsert _ => (inserted_upsert hw).consistent
  | .refresh _ => (refresh_spec hw).1
  | .remove _ alive => (hw.remove alive).1

theorem Reachable.consistent (hg : Reachable g) : g.Consistent := by
  induction hg with
  | empty => exact consistent_empty
  | step op _ ih => exact ih.apply op

theorem Consistent.parentFault (hw : g.Consistent) (hn : g.get? h = some n) :
    g.parentFault p h n = none := by
  unfold Graph.parentFault
  cases hq : n.parent with
  | none => rfl
  | some q =>
    have hl : g.Link h q := by simp [Link, up, hn, hq]
    obtain ⟨m, hm, hhm⟩ := (hw.forest.parent_lists hl).resolve_right List.not_mem_nil
    have hanc : g.isAncestor h q = false := by
      rw [Bool.eq_false_iff]
      intro ha
      rw [isAncestor_iff hw.forest.acyclic] at ha
      exact hw.forest.acyclic h (TransGen.head' hl ha)
    simp [hm, hhm, hanc]

theorem Consistent.childFault (hw : g.Consistent) (hn : g.get? h = some n) (hc : x ∈ n.children) :
    g.childFault p h x = none := by
  obtain ⟨m, hm, hmp⟩ := Option.bind_eq_some_iff.mp (hw.forest.lists_link ⟨n, hn, hc⟩)
  simp [Graph.childFault, hm, hmp]

theorem Consistent.checkEntry (hw : g.Consistent) (hi : g.index[p]? = some h) :
    g.checkEntry p h = none := by
  obtain ⟨n, hn, rfl⟩ := hw.arena.index_get hi
  simp only [Graph.checkEntry, hn, bne_self_eq_false, Bool.false_eq_true, if_false,
    hw.parentFault hn]
  change n.children.findSome? (g.childFault n.pid h) = none
  rw [List.findSome?_eq_none_iff]
  exact fun _ hc ↦ hw.childFault hn hc

theorem Consistent.checkConsistency (hw : g.Consistent) : g.checkConsistency = none := by
  have hcount : g.liveCount = g.size := hw.arena.live_count
  simp only [Graph.checkConsistency, hcount, bne_self_eq_false, Bool.false_eq_true, if_false]
  rw [List.findSome?_eq_none_iff]
  rintro ⟨q, y⟩ hq
  exact hw.checkEntry (Std.TreeMap.mem_toList_iff_getElem?_eq_some.mp hq)

theorem Consistent.root_node (hw : g.Consistent) :
    ∃ n, g.find? rootPid = some n ∧ n.name = rootName ∧ n.parent = none := by
  obtain ⟨n, hn, hname⟩ := hw.forest.root_name
  have hup := hw.forest.root_up
  refine ⟨n, by simp [find?, hw.arena.index_root, hn], hname, ?_⟩
  simpa [up, hn] using hup

theorem Consistent.free_iff (hw : g.Consistent) {i : Nat} : i ∈ g.free ↔ g.EmptySlot i :=
  ⟨hw.arena.free_empty i, hw.arena.empty_free⟩

theorem Consistent.alloc_fresh (hw : g.Consistent) (hx : g.get? x = some n) (m : Node) :
    x.index ≠ (g.alloc m).2.index := by
  obtain ⟨s, hs, -, hsn⟩ := get?_eq_some_iff.mp hx
  cases hf : g.free with
  | nil =>
    simp only [alloc, hf]
    exact Nat.ne_of_lt (Array.getElem?_eq_some_iff.mp hs).1
  | cons i rest =>
    rw [alloc_handle_index hf]
    rintro rfl
    obtain ⟨s', hs', hs'n⟩ := hw.arena.free_empty x.index (by simp [hf])
    rw [hs] at hs'
    cases hs'
    rw [hs'n] at hsn
    cases hsn

/-- Every graph a sequence of operations builds from the empty graph passes its self-check,
keeps the root in place, has children lists without duplicates, and keeps on its free list each
empty slot exactly once and no live one, so that no new node overwrites a live one. -/
theorem run_wellFormed (ops : List Op) :
    (run ops).checkConsistency = none ∧
      (∃ n, (run ops).find? rootPid = some n ∧ n.name = rootName ∧ n.parent = none) ∧
      (∀ x n, (run ops).get? x = some n → n.children.Nodup) ∧
      (run ops).free.Nodup ∧ (∀ i, i ∈ (run ops).free ↔ (run ops).EmptySlot i) ∧
      (∀ x n m, (run ops).get? x = some n → x.index ≠ ((run ops).alloc m).2.index) := by
  have hw := (reachable_run ops).consistent
  exact ⟨hw.checkConsistency, hw.root_node, fun _ _ hx ↦ hw.forest.children_nodup hx,
    hw.arena.free_nodup, fun _ ↦ hw.free_iff, fun _ _ m hx ↦ hw.alloc_fresh hx m⟩

end KeystrokeTally.Proc.Graph
