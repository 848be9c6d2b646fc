import KeystrokeTally.Proofs.Graph.Outline
import KeystrokeTally.Proofs.Graph.Chased

namespace KeystrokeTally.Proc.Graph

variable {g : Graph} {p q : Pid} {x c : Handle} {n : Node} {k fuel : Nat}

/-- The line of `q` at depth `k`: two spaces a level, the pid, a space, the name, the mark of a
placeholder, and a newline. -/
def lineAt (g : Graph) (q : Pid) (k : Nat) : String :=
  String.ofList (List.replicate (2 * k) ' ') ++ toString q ++ " " ++ g.nameOf q ++
    (if g.isPlaceholder q then " (placeholder)" else "") ++ "\n"

def outlineText (g : Graph) (ls : List (Pid × Nat)) : String := String.join (ls.map fun a ↦ g.lineAt a.1 a.2)

@[simp] theorem outlineText_nil : g.outlineText [] = "" := rfl

@[simp] theorem outlineText_cons (a : Pid × Nat) (ls : List (Pid × Nat)) :
    g.outlineText (a :: ls) = g.lineAt a.1 a.2 ++ g.outlineText ls := by
  simp [outlineText]

@[simp] theorem outlineText_append (l ls : List (Pid × Nat)) :
    g.outlineText (l ++ ls) = g.outlineText l ++ g.outlineText ls := by
  simp [outlineText]

theorem line_eq_lineAt (hx : g.index[q]? = some x) (hn : g.get? x = some n) (hq : n.pid = q) :
    line n k = g.lineAt q k := by
  subst hq
  simp [line, lineAt, isPlaceholder, nameOf, find?, hx, hn]

theorem foldl_append_eq_join {α : Type} (f : α → String) :
    ∀ (l : List α) (s : String), l.foldl (fun out a ↦ out ++ f a) s = s ++ String.join (l.map f)
  | [], s => by simp
  | a :: l, s => by
    rw [List.foldl_cons, foldl_append_eq_join f l, List.map_cons, String.join_cons, String.append_assoc]

theorem outline_of_each {α : Type} (f : α → Pid) (s : α → String) :
    ∀ (as : List α), (∀ a ∈ as, ∃ l, g.Outline [f a] k l ∧ s a = g.outlineText l) →
      ∃ L, g.Outline (as.map f) k L ∧ String.join (as.map s) = g.outlineText L
  | [], _ => ⟨[], .nil, rfl⟩
  | a :: as, h => by
    obtain ⟨l, hl, hs⟩ := h a List.mem_cons_self
    obtain ⟨L, hL, hjoin⟩ := outline_of_each f s as fun b hb ↦ h b (List.mem_cons_of_mem a hb)
    refine ⟨l ++ L, hl.append hL, ?_⟩
    rw [List.map_cons, String.join_cons, hs, hjoin, outlineText_append]

/-- Every chain of links ending at `x` is shorter than `fuel`: the subtree of `x` is less than
`fuel` levels deep. -/
def Shallow (g : Graph) (x : Handle) (fuel : Nat) : Prop := ∀ z d, g.above d z = some x → d < fuel

theorem shallow_size (hacyc : g.Acyclic) (x : Handle) : g.Shallow x (g.slots.size + 1) :=
  fun _ _ hz ↦ Nat.lt_succ_of_le (above_le_size hacyc hz)

theorem Shallow.pos (hs : g.Shallow x fuel) : 0 < fuel := hs x 0 rfl

theorem Shallow.child (hs : g.Shallow x (fuel + 1)) (hl : g.Link c x) : g.Shallow c fuel := by
  intro z d hz
  have hup : g.above (d + 1) z = some x := by
    rw [above_succ', hz, Option.bind_some]
    exact hl
  have := hs z (d + 1) hup
  omega

theorem renderFrom_succ (hn : g.get? x = some n) :
    g.renderFrom (fuel + 1) x k = line n k ++ String.join
      (((n.children.filterMap fun c ↦ (g.pidOf c).map (·, c)).mergeSort fun a b ↦ a.1 ≤ b.1).map
        fun a ↦ g.renderFrom fuel a.2 (k + 1)) := by
  rw [renderFrom, hn]
  exact foldl_append_eq_join _ _ _

section Children

variable (hn : g.get? x = some n)
include hn

theorem kids_fst (hx : g.index[q]? = some x) :
    (((n.children.filterMap fun c ↦ (g.pidOf c).map (·, c)).mergeSort fun a b ↦ a.1 ≤ b.1).map Prod.fst) =
      g.childrenOf q := by
  rw [List.map_mergeSort (r := fun (a b : Pid × Handle) ↦ decide (a.1 ≤ b.1)) (s := fun (a b : Pid) ↦ decide (a ≤ b))
      (fun _ _ _ _ ↦ rfl), List.map_filterMap,
    childrenOf_of_node hx hn]
  simp only [Option.map_map, Function.comp_def, Option.map_id']

theorem Consistent.mem_kids (hw : g.Consistent) {a : Pid × Handle}
    (ha : a ∈ (n.children.filterMap fun c ↦ (g.pidOf c).map (·, c)).mergeSort fun a b ↦ a.1 ≤ b.1) :
    g.index[a.1]? = some a.2 ∧ g.Link a.2 x := by
  rw [List.mem_mergeSort, List.mem_filterMap] at ha
  obtain ⟨c, hc, hca⟩ := ha
  obtain ⟨p, hp, rfl⟩ := Option.map_eq_some_iff.mp hca
  exact ⟨hw.pidOf_iff.mp hp, hw.forest.lists_link ⟨n, hn, hc⟩⟩

end Children

theorem Consistent.renderFrom_outline (hw : g.Consistent) :
    ∀ (fuel : Nat) (x : Handle) (q : Pid) (k : Nat), g.index[q]? = some x → g.Shallow x fuel →
      ∃ l, g.Outline [q] k l ∧ g.renderFrom fuel x k = g.outlineText l
  | 0, _, _, _, _, hs => absurd hs.pos (Nat.lt_irrefl 0)
  | fuel + 1, x, q, k, hx, hs => by
    obtain ⟨n, hn, hnq⟩ := hw.arena.index_get hx
    obtain ⟨L, hL, htext⟩ := outline_of_each Prod.fst (fun a ↦ g.renderFrom fuel a.2 (k + 1)) _
      fun a ha ↦ by
        obtain ⟨hidx, hlink⟩ := hw.mem_kids hn ha
        exact hw.renderFrom_outline fuel a.2 a.1 (k + 1) hidx (hs.child hlink)
    rw [kids_fst hn hx] at hL
    refine ⟨(q, k) :: L, hL.single, ?_⟩
    rw [renderFrom_succ hn, htext, line_eq_lineAt hx hn hnq, outlineText_cons]

theorem Consistent.renderTree_outline (hw : g.Consistent) (hp : g.contains p = true) :
    ∃ l, g.Outline [p] 0 l ∧ g.renderTree p = g.outlineText l := by
  obtain ⟨x, hx⟩ := exists_index_of_contains hp
  obtain ⟨l, hl, htext⟩ := hw.renderFrom_outline _ x p 0 hx (shallow_size hw.forest.acyclic x)
  refine ⟨l, hl, ?_⟩
  rw [renderTree, hx]
  exact htext

theorem renderTree_of_not_contains (hp : g.contains p = false) : g.renderTree p = "" := by
  rw [contains_eq_isSome, Option.isSome_eq_false_iff, Option.isNone_iff_eq_none] at hp
  rw [renderTree, hp]

theorem Consistent.renderForest_outline (hw : g.Consistent) :
    ∃ ls, g.Outline g.roots 0 ls ∧ g.renderForest = g.outlineText ls := by
  obtain ⟨L, hL, htext⟩ := outline_of_each id g.renderTree g.roots fun t ht ↦ by
    obtain ⟨y, hy, -⟩ := (mem_roots hw.arena).mp ht
    exact hw.renderTree_outline (contains_of_index hy)
  rw [List.map_id] at hL
  refine ⟨L, hL, ?_⟩
  rw [renderForest, foldl_append_eq_join, String.empty_append, htext]

/-- The forest dump after any run lists every tracked pid exactly once. It is the text of the
outline of the forest: the subtrees of the roots in ascending pid order, each in pre-order with
children in ascending pid order. The outline lists every tracked pid once, so the dump has one
line per pid; each pid stands at its depth below its root, and is marked a placeholder exactly
when its node was made by ancestor chasing and not reported since. The dump of a tracked pid's
subtree is the outline of that subtree from depth 0, which stands in the outline of the forest
as one block, shifted by the pid's depth; an unknown pid dumps nothing. -/
theorem forest_dump_lists_each_pid_once (ops : List Op) :
    ∃ ls, (run ops).Outline (run ops).roots 0 ls ∧ (run ops).renderForest = (run ops).outlineText ls ∧
      (ls.map Prod.fst).Perm (run ops).pids ∧ ls.length = (run ops).size ∧
      (∀ q k, (q, k) ∈ ls → (run ops).Depth q k) ∧
      (∀ q, (run ops).isPlaceholder q = true ↔ ChasedSince ops q) ∧
      (run ops).roots.Pairwise (· < ·) ∧ (∀ q, ((run ops).childrenOf q).Pairwise (· < ·)) ∧
      ∀ p, ((run ops).contains p = false → (run ops).renderTree p = "") ∧
        ((run ops).contains p = true → ∃ l A C k, (run ops).Outline [p] 0 l ∧
          (run ops).renderTree p = (run ops).outlineText l ∧ (run ops).Depth p k ∧
          ls = A ++ l.map (fun a ↦ (a.1, a.2 + k)) ++ C) := by
  have hw := (reachable_run ops).consistent
  obtain ⟨ls, hls, htext⟩ := hw.renderForest_outline
  have hperm := hw.outline_roots_perm hls
  refine ⟨ls, hls, htext, hperm, ?_, fun q k hm ↦ hw.depth_of_outline_roots hls hm, isPlaceholder_run ops,
    roots_sorted, fun q ↦ hw.childrenOf_sorted, fun p ↦ ⟨renderTree_of_not_contains, fun hp ↦ ?_⟩⟩
  · rw [← List.length_map Prod.fst, hperm.length_eq]
    exact Std.TreeMap.length_keys
  · obtain ⟨l, hl, hrender⟩ := hw.renderTree_outline hp
    obtain ⟨k, hk⟩ : ∃ k, (p, k) ∈ ls := by
      have hmem : p ∈ ls.map Prod.fst := hperm.mem_iff.mpr (by
        rw [pids, Std.TreeMap.mem_keys, Std.TreeMap.mem_iff_contains]
        exact hp)
      obtain ⟨⟨p', k⟩, hpk, rfl⟩ := List.mem_map.mp hmem
      exact ⟨k, hpk⟩
    obtain ⟨A, l', C, rfl, hl'⟩ := hls.block hk
    have hshift := hl.shift k
    rw [Nat.zero_add] at hshift
    exact ⟨l, A, C, k, hl, hrender, hw.depth_of_outline_roots hls hk, by rw [hl'.unique hshift]⟩

end KeystrokeTally.Proc.Graph
