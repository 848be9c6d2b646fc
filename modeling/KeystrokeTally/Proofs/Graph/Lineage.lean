import Mathlib.Data.String.Basic
import KeystrokeTally.Proofs.Graph.Coverage

namespace KeystrokeTally.Proc.Graph

open Relation

def ParentEdge (g : Graph) (a b : Pid) : Prop := g.parentOf a = some b

def ChildEdge (g : Graph) (a b : Pid) : Prop := b ∈ g.childrenOf a

variable {g : Graph} {a b p q : Pid} {x y : Handle}

theorem Consistent.parentEdge_iff (hw : g.Consistent) :
    g.ParentEdge a b ↔ ∃ x y, g.index[a]? = some x ∧ g.index[b]? = some y ∧ g.Link x y := by
  constructor
  · intro hab
    obtain ⟨x, hx⟩ := Option.isSome_iff_exists.mp (index_of_parentOf hab)
    obtain ⟨y, hy⟩ := Option.isSome_iff_exists.mp (hw.index_of_parentOf_eq hab)
    exact ⟨x, y, hx, hy, hw.link_of_parentOf hx hy hab⟩
  · rintro ⟨x, y, hx, hy, hl⟩
    rw [ParentEdge, parentOf_of_index hx, hl, Option.bind_some]
    exact (hw.pidOf_iff).mpr hy

theorem Consistent.childEdge_iff (hw : g.Consistent) :
    g.ChildEdge a b ↔ ∃ x y, g.index[a]? = some x ∧ g.index[b]? = some y ∧ g.Link y x := by
  unfold ChildEdge childrenOf find?
  rw [List.mem_mergeSort]
  constructor
  · intro hb
    cases hx : g.index[a]? with
    | none => simp [hx] at hb
    | some x =>
      cases hn : g.get? x with
      | none => simp [hx, hn] at hb
      | some n =>
        simp only [hx, hn, Option.bind_some, Option.map_some, Option.getD_some, List.mem_filterMap] at hb
        obtain ⟨c, hc, hcb⟩ := hb
        exact ⟨x, c, rfl, (hw.pidOf_iff).mp hcb, hw.forest.lists_link ⟨n, hn, hc⟩⟩
  · rintro ⟨x, y, hx, hy, hl⟩
    obtain ⟨n, hn, hc⟩ := (hw.forest.parent_lists hl).resolve_right List.not_mem_nil
    simp only [hx, hn, Option.bind_some, Option.map_some, Option.getD_some, List.mem_filterMap]
    exact ⟨y, hc, (hw.pidOf_iff).mpr hy⟩

theorem Consistent.childEdge_iff_parentEdge (hw : g.Consistent) : g.ChildEdge a b ↔ g.ParentEdge b a := by
  rw [hw.childEdge_iff, hw.parentEdge_iff]
  constructor
  · rintro ⟨x, y, hx, hy, hl⟩
    exact ⟨y, x, hy, hx, hl⟩
  · rintro ⟨y, x, hy, hx, hl⟩
    exact ⟨x, y, hx, hy, hl⟩

theorem Consistent.transGen_childEdge_iff (hw : g.Consistent) :
    TransGen g.ChildEdge a b ↔ ∃ x y, g.index[a]? = some x ∧ g.index[b]? = some y ∧ TransGen g.Link y x := by
  constructor
  · intro hab
    induction hab with
    | single hab =>
      obtain ⟨x, y, hx, hy, hl⟩ := hw.childEdge_iff.mp hab
      exact ⟨x, y, hx, hy, .single hl⟩
    | tail _ hcb ih =>
      obtain ⟨x, z, hx, hz, hzx⟩ := ih
      obtain ⟨z', y, hz', hy, hyz⟩ := hw.childEdge_iff.mp hcb
      rw [hz] at hz'
      cases hz'
      exact ⟨x, y, hx, hy, .head hyz hzx⟩
  · rintro ⟨x, y, hx, hy, hyx⟩
    induction hyx using TransGen.head_induction_on generalizing b with
    | single hl => exact .single (hw.childEdge_iff.mpr ⟨x, _, hx, hy, hl⟩)
    | head hyz _ ih =>
      obtain ⟨m, hm⟩ := Option.isSome_iff_exists.mp (hw.forest.parent_live hyz)
      have hz := hw.arena.get_index hm
      exact .tail (ih hz) (hw.childEdge_iff.mpr ⟨_, _, hz, hy, hyz⟩)

theorem Consistent.transGen_parentEdge_iff (hw : g.Consistent) :
    TransGen g.ParentEdge a b ↔ ∃ x y, g.index[a]? = some x ∧ g.index[b]? = some y ∧ TransGen g.Link x y := by
  have hflip : g.ParentEdge = Function.swap g.ChildEdge :=
    funext fun a ↦ funext fun b ↦ propext hw.childEdge_iff_parentEdge.symm
  rw [hflip, transGen_swap, hw.transGen_childEdge_iff]
  constructor
  · rintro ⟨y, x, hy, hx, hl⟩
    exact ⟨x, y, hx, hy, hl⟩
  · rintro ⟨x, y, hx, hy, hl⟩
    exact ⟨y, x, hy, hx, hl⟩

theorem nodup_eraseDups {α : Type} [BEq α] [LawfulBEq α] : ∀ l : List α, l.eraseDups.Nodup
  | [] => List.nodup_nil
  | a :: as => by
    rw [List.eraseDups_cons]
    refine List.nodup_cons.mpr ⟨?_, nodup_eraseDups _⟩
    simp [List.mem_eraseDups, List.mem_filter]
termination_by l => l.length
decreasing_by exact Nat.lt_succ_of_le (List.length_filter_le _ _)

theorem pairLe_trans (a b c : Pid × String) (hab : pairLe a b = true) (hbc : pairLe b c = true) :
    pairLe a c = true := by
  simp only [pairLe, Bool.or_eq_true, decide_eq_true_eq, Bool.and_eq_true, beq_iff_eq] at *
  rcases hab with hab | ⟨hab, hab'⟩ <;> rcases hbc with hbc | ⟨hbc, hbc'⟩
  · exact Or.inl (hab.trans hbc)
  · exact Or.inl (hbc ▸ hab)
  · exact Or.inl (hab ▸ hbc)
  · exact Or.inr ⟨hab.trans hbc, hab'.trans hbc'⟩

theorem pairLe_total (a b : Pid × String) : (pairLe a b || pairLe b a) = true := by
  simp only [pairLe, Bool.or_eq_true, decide_eq_true_eq, Bool.and_eq_true, beq_iff_eq]
  rcases Nat.lt_trichotomy a.1 b.1 with h | h | h
  · exact Or.inl (Or.inl h)
  · rcases le_total a.2 b.2 with h' | h'
    · exact Or.inl (Or.inr ⟨h, h'⟩)
    · exact Or.inr (Or.inr ⟨h.symm, h'⟩)
  · exact Or.inr (Or.inl h)

theorem Consistent.descendants_sorted (hw : g.Consistent) (p : Pid) :
    (g.descendants p).Pairwise fun a b ↦ a.1 < b.1 := by
  cases hi : g.index[p]? with
  | none => simp [descendants, hi]
  | some h₀ =>
    have hsame : ∀ a ∈ g.descendants p, ∀ b ∈ g.descendants p, a.1 = b.1 → a = b := by
      intro a ha b hb hab
      obtain ⟨_, v, m, -, hm, -, rfl⟩ := hw.mem_descendants_iff.mp ha
      obtain ⟨_, v', m', -, hm', -, rfl⟩ := hw.mem_descendants_iff.mp hb
      obtain rfl := hw.arena.eq_of_pid hm hm' hab
      rw [hm] at hm'
      cases hm'
      rfl
    let found := g.walkDown (g.slots.size + 1) [h₀] ((∅ : Std.HashSet Handle).insert h₀) []
    have hsorted := List.pairwise_mergeSort pairLe_trans pairLe_total found.eraseDups
    have hnodup := (List.mergeSort_perm found.eraseDups pairLe).nodup_iff.mpr (nodup_eraseDups found)
    have hdesc : g.descendants p = found.eraseDups.mergeSort pairLe := by simp [descendants, hi, found]
    rw [← hdesc] at hsorted hnodup
    refine (hsorted.and (hnodup.pairwise_of_forall_ne fun a _ b _ h ↦ h)).imp_of_mem ?_
    rintro a b ha hb ⟨hle, hne⟩
    simp only [pairLe, Bool.or_eq_true, decide_eq_true_eq, Bool.and_eq_true, beq_iff_eq] at hle
    rcases hle with hlt | ⟨heq, -⟩
    · exact hlt
    · exact absurd (hsame a ha b hb heq) hne

theorem Consistent.mem_descendants_closure (hw : g.Consistent) (p : Pid) (a : Pid × String) :
    a ∈ g.descendants p ↔ ∃ q, TransGen g.ChildEdge p q ∧ q ≠ p ∧ a = (q, g.nameOf q) := by
  rw [hw.mem_descendants_iff]
  constructor
  · rintro ⟨h₀, v, m, hi, hm, hbelow, rfl⟩
    have hv := hw.arena.get_index hm
    refine ⟨m.pid, hw.transGen_childEdge_iff.mpr ⟨h₀, v, hi, hv, hbelow⟩, ?_, ?_⟩
    · rintro hmp
      rw [hmp, hi] at hv
      cases hv
      exact hw.forest.acyclic _ hbelow
    · simp [nameOf, find?, hv, hm]
  · rintro ⟨q, hpq, -, rfl⟩
    obtain ⟨h₀, v, hi, hv, hbelow⟩ := hw.transGen_childEdge_iff.mp hpq
    obtain ⟨m, hm, rfl⟩ := hw.arena.index_get hv
    exact ⟨h₀, v, m, hi, hm, hbelow, by simp [nameOf, find?, hv, hm]⟩

/-- On a consistent graph, `descendants p` is the set of pids one or more child edges below `p`,
each with its name, listed once each and ascending by pid; it is empty for an unknown pid and
never lists `p`; and it lists every other pid from which the parent edges lead up to the root,
when `p` is the root. -/
theorem Consistent.descendants_eq_closure (hw : g.Consistent) (p : Pid) :
    (g.descendants p).Pairwise (fun a b ↦ a.1 < b.1) ∧
    (∀ a, a ∈ g.descendants p ↔ ∃ q, TransGen g.ChildEdge p q ∧ q ≠ p ∧ a = (q, g.nameOf q)) ∧
    (g.contains p = false → g.descendants p = []) ∧
    p ∉ (g.descendants p).map Prod.fst ∧
    ∀ q, q ≠ rootPid → ReflTransGen g.ParentEdge q rootPid → (q, g.nameOf q) ∈ g.descendants rootPid := by
  have hmem := hw.mem_descendants_closure
  refine ⟨hw.descendants_sorted p, hmem p, fun hp ↦ ?_, hw.not_mem_descendants p, fun q hq hroot ↦ ?_⟩
  · have hi : g.index[p]? = none := by
      unfold contains at hp
      rwa [Std.TreeMap.contains_eq_isSome_getElem?, Option.isSome_eq_false_iff, Option.isNone_iff_eq_none] at hp
    simp [descendants, hi]
  · have hchild : TransGen g.ChildEdge rootPid q := by
      have hflip : g.ChildEdge = Function.swap g.ParentEdge :=
        funext fun a ↦ funext fun b ↦ propext hw.childEdge_iff_parentEdge
      rw [hflip, transGen_swap]
      rcases hroot.cases_head with rfl | ⟨c, hqc, hc⟩
      · exact absurd rfl hq
      · exact TransGen.head' hqc hc
    exact (hmem rootPid _).mpr ⟨q, hchild, hq, rfl⟩

section Agree

variable {g' : Graph}

theorem childrenOf_of_node {n : Node} (hx : g.index[q]? = some x) (hn : g.get? x = some n) :
    g.childrenOf q = (n.children.filterMap g.pidOf).mergeSort := by
  simp only [childrenOf, find?, hx, Option.bind_some, hn, Option.map_some, Option.getD_some]

theorem childrenOf_of_none (hx : g.index[q]? = none) : g.childrenOf q = [] := by
  simp only [childrenOf, find?, hx, Option.bind_none, Option.map_none, Option.getD_none,
    List.mergeSort_nil]

theorem nameOf_of_node {n : Node} (hx : g.index[q]? = some x) (hn : g.get? x = some n) :
    g.nameOf q = n.name := by
  simp only [nameOf, find?, hx, Option.bind_some, hn]

theorem nameOf_congr (hidx : g'.index = g.index)
    (hname : ∀ x, (g'.get? x).map (·.name) = (g.get? x).map (·.name)) : g'.nameOf q = g.nameOf q := by
  unfold nameOf find?
  rw [hidx]
  cases g.index[q]? with
  | none => rfl
  | some x =>
    have := hname x
    revert this
    simp only [Option.bind_some]
    cases g'.get? x <;> cases g.get? x <;> simp

theorem childrenOf_congr (hidx : g'.index = g.index)
    (hch : ∀ x, (g'.get? x).map (·.children) = (g.get? x).map (·.children))
    (hpid : ∀ x, g'.pidOf x = g.pidOf x) : g'.childrenOf q = g.childrenOf q := by
  unfold childrenOf find?
  rw [hidx, funext hpid]
  cases g.index[q]? with
  | none => rfl
  | some x =>
    have := hch x
    revert this
    simp only [Option.bind_some]
    cases g'.get? x <;> cases g.get? x <;> simp_all

theorem transGen_childEdge_congr (hsub : ∀ r, ReflTransGen g.ChildEdge p r → g'.childrenOf r = g.childrenOf r) :
    TransGen g'.ChildEdge p q ↔ TransGen g.ChildEdge p q := by
  constructor
  · intro hpq
    induction hpq with
    | single hb =>
      refine .single ?_
      rwa [ChildEdge, ← hsub p .refl]
    | tail _ hcb ih =>
      refine .tail ih ?_
      rwa [ChildEdge, ← hsub _ ih.to_reflTransGen]
  · intro hpq
    induction hpq with
    | single hb =>
      refine .single ?_
      rwa [ChildEdge, hsub p .refl]
    | tail hpc hcb ih =>
      refine .tail ih ?_
      rwa [ChildEdge, hsub _ hpc.to_reflTransGen]

theorem Consistent.descendants_eq_of (hw : g.Consistent) (hw' : g'.Consistent)
    (hsub : ∀ r, ReflTransGen g.ChildEdge p r → g'.childrenOf r = g.childrenOf r)
    (hname : ∀ q, TransGen g.ChildEdge p q → g'.nameOf q = g.nameOf q) :
    g'.descendants p = g.descendants p := by
  have hirr : Std.Irrefl fun a b : Pid × String ↦ a.1 < b.1 := ⟨fun a ↦ Nat.lt_irrefl a.1⟩
  have hanti : Std.Antisymm fun a b : Pid × String ↦ a.1 < b.1 :=
    ⟨fun a b hab hba ↦ absurd (hab.trans hba) (Nat.lt_irrefl a.1)⟩
  refine (hw'.descendants_sorted p).eq_of_mem_iff (hw.descendants_sorted p) fun a ↦ ?_
  rw [hw'.mem_descendants_closure, hw.mem_descendants_closure]
  constructor
  · rintro ⟨q, hpq, hqp, rfl⟩
    have hpq' := (transGen_childEdge_congr hsub).mp hpq
    exact ⟨q, hpq', hqp, by rw [hname q hpq']⟩
  · rintro ⟨q, hpq, hqp, rfl⟩
    exact ⟨q, (transGen_childEdge_congr hsub).mpr hpq, hqp, by rw [hname q hpq]⟩

end Agree

theorem descendants_eq_closure_chain :
    let g := run [.upsert ⟨2, 1, "b"⟩]
    g.Consistent ∧
    (g.descendants 1).Pairwise (fun a b ↦ a.1 < b.1) ∧
    (∀ a, a ∈ g.descendants 1 ↔ ∃ q, TransGen g.ChildEdge 1 q ∧ q ≠ 1 ∧ a = (q, g.nameOf q)) ∧
    (g.contains 1 = false → g.descendants 1 = []) ∧
    1 ∉ (g.descendants 1).map Prod.fst ∧
    ∀ q, q ≠ rootPid → ReflTransGen g.ParentEdge q rootPid → (q, g.nameOf q) ∈ g.descendants rootPid :=
  ⟨(reachable_run _).consistent, (reachable_run _).consistent.descendants_eq_closure 1⟩

end KeystrokeTally.Proc.Graph
