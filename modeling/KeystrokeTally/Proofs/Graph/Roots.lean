import Mathlib.Data.List.Sort
import KeystrokeTally.Proofs.Graph.Walk

namespace KeystrokeTally.Proc.Graph

open Relation

variable {g : Graph} {q : Pid} {x : Handle} {n : Node}

theorem mem_roots (ha : g.ArenaWf) : q ∈ g.roots ↔ g.IsRootPid q := by
  simp only [roots, List.mem_filterMap]
  constructor
  · rintro ⟨⟨p, x⟩, hx, hq⟩
    split at hq
    · cases hq
      rename_i hany
      rcases hn : g.get? x with _ | n
      · simp [hn] at hany
      · exact ⟨x, Std.TreeMap.mem_toList_iff_getElem?_eq_some.mp hx, by simpa [up, hn] using hany⟩
    · cases hq
  · rintro ⟨x, hx, hup⟩
    obtain ⟨n, hn, -⟩ := ha.index_get hx
    have hpar : n.parent = none := by simpa [up, hn] using hup
    exact ⟨(q, x), Std.TreeMap.mem_toList_iff_getElem?_eq_some.mpr hx, by simp [hn, hpar]⟩

theorem roots_sorted : g.roots.Pairwise (· < ·) := by
  unfold roots
  rw [List.pairwise_filterMap]
  refine (Std.TreeMap.ordered_keys_toList (t := g.index)).imp ?_
  rintro ⟨p, x⟩ ⟨p', x'⟩ hlt b hb b' hb'
  dsimp only at hb hb'
  split at hb <;> split at hb' <;> simp only [Option.some.injEq, reduceCtorEq] at hb hb'
  subst hb hb'
  exact Nat.compare_eq_lt.mp hlt

theorem roots_eq_filter {g' : Graph} {P : Pid → Bool} (ha : g.ArenaWf) (ha' : g'.ArenaWf)
    (hP : ∀ q, g'.IsRootPid q ↔ g.IsRootPid q ∧ P q = true) : g'.roots = g.roots.filter P :=
  roots_sorted.eq_of_mem_iff (roots_sorted.filter _) fun q ↦ by
    rw [mem_roots ha', List.mem_filter, mem_roots ha, hP]

theorem Consistent.exists_top (hw : g.Consistent) (hx : (g.get? x).isSome) :
    ∃ y, ReflTransGen g.Link x y ∧ (g.get? y).isSome ∧ g.up y = none := by
  by_contra hnone
  simp only [not_exists, not_and] at hnone
  have hchain : ∀ k, ∃ y, g.above k x = some y ∧ (g.get? y).isSome := by
    intro k
    induction k with
    | zero => exact ⟨x, rfl, hx⟩
    | succ k ih =>
      obtain ⟨y, hy, hylive⟩ := ih
      obtain ⟨z, hz⟩ := Option.ne_none_iff_exists'.mp
        (hnone y (reflTransGen_iff_above.mpr ⟨k, hy⟩) hylive)
      exact ⟨z, by rw [above_succ', hy, Option.bind_some, hz], hw.forest.parent_live hz⟩
  obtain ⟨y, hy, -⟩ := hchain (g.slots.size + 1)
  exact absurd (above_le_size hw.forest.acyclic hy) (Nat.lt_irrefl _)

theorem Consistent.reaches_root (hw : g.Consistent) (hroots : ∀ q, g.IsRootPid q ↔ q = rootPid)
    (hx : (g.get? x).isSome) : ReflTransGen g.Link x g.root := by
  obtain ⟨y, hxy, hylive, hup⟩ := hw.exists_top hx
  obtain ⟨m, hm⟩ := Option.isSome_iff_exists.mp hylive
  have hidx := hw.arena.get_index hm
  have hpid : m.pid = rootPid := (hroots m.pid).mp ⟨y, hidx, hup⟩
  rw [hpid, hw.arena.index_root] at hidx
  rwa [Option.some.inj hidx]

theorem Consistent.isRootPid_root (hw : g.Consistent) : g.IsRootPid rootPid :=
  ⟨g.root, hw.arena.index_root, hw.forest.root_up⟩

variable {e : Entry} {entries : List Entry}

theorem roots_upsert (hw : g.Consistent) (hp : e.pid ≠ rootPid) :
    (g.upsert e).1.roots = g.roots.filter (· != e.pid) := by
  have hi := inserted_upsert (e := e) hw
  refine roots_eq_filter hw.arena hi.consistent.arena fun q ↦ ?_
  rw [hi.isRootPid_iff hw, bne_iff_ne]
  constructor
  · rintro ⟨hq, rfl | hne⟩
    · exact ⟨hq, Ne.symm hp⟩
    · exact ⟨hq, hne⟩
  · rintro ⟨hq, hne⟩
    exact ⟨hq, Or.inr hne⟩

theorem roots_refresh (hw : g.Consistent) :
    (g.refresh entries).1.roots = g.roots.filter fun q ↦ q == rootPid || entries.all (·.pid != q) := by
  obtain ⟨hw', hroot⟩ := (refresh_spec hw : (g.refresh entries).1.Consistent ∧ _)
  refine roots_eq_filter hw.arena hw'.arena fun q ↦ ?_
  rw [hroot]
  simp only [Bool.or_eq_true, beq_iff_eq, List.all_eq_true, bne_iff_ne]

theorem roots_refresh_of_covers (hw : g.Consistent)
    (hcov : ∀ q ∈ g.roots, q ≠ rootPid → ∃ e ∈ entries, e.pid = q) :
    (g.refresh entries).1.roots = [rootPid] := by
  rw [roots_refresh hw]
  refine (roots_sorted.filter _).eq_of_mem_iff (List.pairwise_singleton _ _) fun q ↦ ?_
  simp only [List.mem_filter, Bool.or_eq_true, beq_iff_eq, List.all_eq_true, bne_iff_ne,
    List.mem_singleton]
  constructor
  · rintro ⟨hq, hr | hall⟩
    · exact hr
    · by_contra hne
      obtain ⟨e, he, hep⟩ := hcov q hq hne
      exact hall e he hep
  · rintro rfl
    exact ⟨(mem_roots hw.arena).mpr hw.isRootPid_root, Or.inl rfl⟩

theorem isRootPid_empty : empty.IsRootPid q ↔ q = rootPid := by
  constructor
  · rintro ⟨x, hx, -⟩
    rw [index_empty] at hx
    split at hx
    · assumption
    · cases hx
  · rintro rfl
    exact consistent_empty.isRootPid_root

theorem isRootPid_foldl_inserts : ∀ (ops : List Op) (g : Graph), g.Consistent →
    (∀ q, g.IsRootPid q ↔ q = rootPid) → (∀ op ∈ ops, op.isRemove = false) →
    ∀ q, (ops.foldl Op.apply g).IsRootPid q ↔ q = rootPid
  | [], _, _, hr, _ => hr
  | op :: ops, g, hw, hr, hops => by
    have hstep : ∀ q, (op.apply g).IsRootPid q ↔ q = rootPid := by
      intro q
      cases op with
      | upsert e =>
        rw [Op.apply, (inserted_upsert hw).isRootPid_iff hw, hr]
        constructor
        · exact fun h ↦ h.1
        · exact fun h ↦ ⟨h, Or.inl h⟩
      | refresh entries =>
        rw [Op.apply, (refresh_spec hw).2, hr]
        constructor
        · exact fun h ↦ h.1
        · exact fun h ↦ ⟨h, Or.inl h⟩
      | remove p alive => cases hops _ List.mem_cons_self
    exact isRootPid_foldl_inserts ops _ (hw.apply op) hstep fun o ho ↦ hops o (List.mem_cons_of_mem _ ho)

theorem Consistent.mem_descendants_root (hw : g.Consistent)
    (hroots : ∀ q, g.IsRootPid q ↔ q = rootPid) (hq : q ∈ g.pids) (hne : q ≠ rootPid) :
    q ∈ (g.descendants rootPid).map Prod.fst := by
  obtain ⟨x, hx⟩ := Option.isSome_iff_exists.mp
    (Std.TreeMap.mem_iff_isSome_getElem?.mp (Std.TreeMap.mem_keys.mp hq))
  obtain ⟨n, hn, rfl⟩ := hw.arena.index_get hx
  have hxr : x ≠ g.root := hw.arena.ne_root hn hne
  rcases (hw.reaches_root (x := x) hroots (by simp [hn])).cases_head with hxr' | ⟨y, hxy, hyr⟩
  · exact absurd hxr' hxr
  · exact List.mem_map.mpr ⟨_, hw.mem_descendants hw.arena.index_root hn (TransGen.head' hxy hyr), rfl⟩

/-- Insertions and refresh passes take out of the roots exactly the pids they insert; so a graph
built from the empty one without removals is one tree below the root, and a refresh that lists
every root a removal left restores that. -/
theorem roots_laws :
    (∀ g, Reachable g → ∀ e : Entry, e.pid ≠ rootPid →
      (g.upsert e).1.roots = g.roots.filter (· != e.pid)) ∧
    (∀ g, Reachable g → ∀ entries : List Entry,
      (g.refresh entries).1.roots = g.roots.filter fun q ↦ q == rootPid || entries.all (·.pid != q)) ∧
    (∀ ops : List Op, (∀ op ∈ ops, op.isRemove = false) →
      (run ops).roots = [rootPid] ∧
        ∀ q ∈ (run ops).pids, q ≠ rootPid → q ∈ ((run ops).descendants rootPid).map Prod.fst) ∧
    (∀ g, Reachable g → ∀ entries : List Entry,
      (∀ q ∈ g.roots, q ≠ rootPid → ∃ e ∈ entries, e.pid = q) →
        (g.refresh entries).1.roots = [rootPid]) := by
  refine ⟨fun g hg e hp ↦ roots_upsert hg.consistent hp, fun g hg _ ↦ roots_refresh hg.consistent,
    fun ops hops ↦ ?_, fun g hg _ hcov ↦ roots_refresh_of_covers hg.consistent hcov⟩
  have hw := (reachable_run ops).consistent
  have hroots := isRootPid_foldl_inserts ops empty consistent_empty (fun _ ↦ isRootPid_empty) hops
  refine ⟨roots_sorted.eq_of_mem_iff (List.pairwise_singleton _ _) fun q ↦ ?_,
    fun q hq hne ↦ hw.mem_descendants_root hroots hq hne⟩
  rw [mem_roots hw.arena, List.mem_singleton]
  exact hroots q

end KeystrokeTally.Proc.Graph
