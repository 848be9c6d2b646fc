import KeystrokeTally.Proofs.Graph.Ancestry

namespace KeystrokeTally.Proc

namespace Graph

open Relation

def Lists (g : Graph) (p c : Handle) : Prop := ∃ m, g.get? p = some m ∧ c ∈ m.children

/-- The index and the slots agree, the free list stacks exactly the empty slots, once each,
and the root is indexed. -/
structure ArenaWf (g : Graph) : Prop where
  index_get : ∀ {p h}, g.index[p]? = some h → ∃ n, g.get? h = some n ∧ n.pid = p
  get_index : ∀ {h n}, g.get? h = some n → g.index[n.pid]? = some h
  root_index : (g.index[rootPid]?).isSome
  free_nodup : g.free.Nodup
  free_empty : g.FreeEmpty
  empty_free : ∀ {i}, g.EmptySlot i → i ∈ g.free
  live_count : g.slots.countP (·.node.isSome) = g.size

/-- The links form a forest under the root, with the nodes of `D` being taken apart. -/
structure ForestWf (g : Graph) (D : List Handle) : Prop where
  root_name : ∃ n, g.get? g.root = some n ∧ n.name = rootName
  root_up : g.up g.root = none
  parent_live : ∀ {c p}, g.Link c p → (g.get? p).isSome
  parent_lists : ∀ {c p}, g.Link c p → g.Lists p c ∨ p ∈ D
  lists_link : ∀ {p c}, g.Lists p c → g.Link c p
  children_nodup : ∀ {h n}, g.get? h = some n → n.children.Nodup
  acyclic : g.Acyclic
  pending : ∀ {d}, d ∈ D → (g.get? d).isSome ∧ g.up d = none ∧ ∀ c, ¬ g.Lists d c

/-- Consistency with the nodes of `D` being taken apart. -/
structure Wf (g : Graph) (D : List Handle) : Prop where
  arena : g.ArenaWf
  forest : g.ForestWf D

def Consistent (g : Graph) : Prop := g.Wf []

/-- `g'` has the index, free list, slot shapes and node pids of `g`: it differs at most in the
links, names, origins and stamps of its nodes. -/
structure SameNodes (g g' : Graph) : Prop where
  index_eq : g'.index = g.index
  free_eq : g'.free = g.free
  shape_eq : g'.slots.map Slot.shape = g.slots.map Slot.shape
  pid_eq : ∀ x, (g'.get? x).map (·.pid) = (g.get? x).map (·.pid)

variable {g g' g'' : Graph} {D : List Handle} {h c p x y : Handle} {n : Node}

theorem SameNodes.refl : SameNodes g g := ⟨rfl, rfl, rfl, fun _ ↦ rfl⟩

theorem SameNodes.trans (h₁ : SameNodes g g') (h₂ : SameNodes g' g'') : SameNodes g g'' :=
  ⟨h₂.index_eq.trans h₁.index_eq, h₂.free_eq.trans h₁.free_eq, h₂.shape_eq.trans h₁.shape_eq,
    fun x ↦ (h₂.pid_eq x).trans (h₁.pid_eq x)⟩

theorem SameNodes.root_eq (hs : SameNodes g g') : g'.root = g.root := by
  simp [root, hs.index_eq]

theorem SameNodes.live_iff (hs : SameNodes g g') : (g'.get? x).isSome = (g.get? x).isSome := by
  have := congrArg Option.isSome (hs.pid_eq x)
  simpa using this

theorem emptySlot_iff_shape {i : Nat} :
    g.EmptySlot i ↔ ∃ u, (g.slots.map Slot.shape)[i]? = some (u, false) := by
  simp only [EmptySlot, Array.getElem?_map]
  constructor
  · rintro ⟨s, hs, hn⟩
    exact ⟨s.generation, by simp [hs, hn, Slot.shape]⟩
  · rintro ⟨u, hu⟩
    obtain ⟨s, hs, he⟩ := Option.map_eq_some_iff.mp hu
    simp only [Slot.shape, Prod.mk.injEq] at he
    exact ⟨s, hs, by simpa using he.2⟩

theorem SameNodes.emptySlot_iff (hs : SameNodes g g') {i : Nat} : g'.EmptySlot i ↔ g.EmptySlot i := by
  rw [emptySlot_iff_shape, emptySlot_iff_shape, hs.shape_eq]

theorem SameNodes.liveCount_eq (hs : SameNodes g g') :
    g'.slots.countP (·.node.isSome) = g.slots.countP (·.node.isSome) := by
  have h₁ : g'.slots.countP (·.node.isSome) = (g'.slots.map Slot.shape).countP (·.2) := by
    rw [Array.countP_map]
    rfl
  have h₂ : g.slots.countP (·.node.isSome) = (g.slots.map Slot.shape).countP (·.2) := by
    rw [Array.countP_map]
    rfl
  rw [h₁, h₂, hs.shape_eq]

theorem ArenaWf.of_sameNodes (ha : g.ArenaWf) (hs : SameNodes g g') : g'.ArenaWf where
  index_get {p x} hp := by
    rw [hs.index_eq] at hp
    obtain ⟨n, hn, rfl⟩ := ha.index_get hp
    have := hs.pid_eq x
    rw [hn] at this
    obtain ⟨n', hn', he⟩ := Option.map_eq_some_iff.mp this
    exact ⟨n', hn', he⟩
  get_index {x n} hn := by
    have := hs.pid_eq x
    rw [hn, Option.map_some] at this
    obtain ⟨m, hm, he⟩ := Option.map_eq_some_iff.mp this.symm
    rw [hs.index_eq, ← he]
    exact ha.get_index hm
  root_index := by
    rw [hs.index_eq]
    exact ha.root_index
  free_nodup := by
    rw [hs.free_eq]
    exact ha.free_nodup
  free_empty i hi := by
    rw [hs.free_eq] at hi
    exact hs.emptySlot_iff.mpr (ha.free_empty i hi)
  empty_free he := by
    rw [hs.free_eq]
    exact ha.empty_free (hs.emptySlot_iff.mp he)
  live_count := by
    rw [hs.liveCount_eq, ha.live_count, size, size, hs.index_eq]

theorem ArenaWf.index_root (ha : g.ArenaWf) : g.index[rootPid]? = some g.root := by
  obtain ⟨r, hr⟩ := Option.isSome_iff_exists.mp ha.root_index
  simp [root, hr]

theorem ArenaWf.root_get (ha : g.ArenaWf) : ∃ n, g.get? g.root = some n ∧ n.pid = rootPid :=
  ha.index_get ha.index_root

theorem ArenaWf.eq_of_pid (ha : g.ArenaWf) {m : Node} (hx : g.get? x = some n) (hy : g.get? y = some m)
    (hp : n.pid = m.pid) : x = y := by
  have h₁ := ha.get_index hx
  have h₂ := ha.get_index hy
  rw [hp, h₂] at h₁
  exact (Option.some.inj h₁).symm

theorem ArenaWf.pid_eq_of_index (ha : g.ArenaWf) {p q : Pid} (hp : g.index[p]? = some x)
    (hq : g.index[q]? = some x) : p = q := by
  obtain ⟨n, hn, rfl⟩ := ha.index_get hp
  obtain ⟨m, hm, rfl⟩ := ha.index_get hq
  rw [hn] at hm
  cases hm
  rfl

theorem ArenaWf.ne_root (ha : g.ArenaWf) (hx : g.get? x = some n) (hp : n.pid ≠ rootPid) :
    x ≠ g.root := by
  rintro rfl
  obtain ⟨m, hm, hmp⟩ := ha.root_get
  rw [hx] at hm
  cases hm
  exact hp hmp

theorem ForestWf.ne_of_link (hf : g.ForestWf D) (hl : g.Link c p) : c ≠ p := by
  rintro rfl
  exact hf.acyclic c (TransGen.single hl)

theorem ForestWf.not_lists (hf : g.ForestWf D) (hup : g.up c = none) : ¬ g.Lists p c := by
  intro hl
  have := hf.lists_link hl
  rw [Link, hup] at this
  cases this

theorem Wf.consistent (hw : g.Wf []) : g.Consistent := hw

theorem up_update : (g.update h f).up x = if x = h then ((g.get? h).map f).bind (·.parent)
    else g.up x := by
  simp only [up, get?_update]
  split <;> rfl

theorem lists_update : (g.update h f).Lists p c ↔
    if p = h then ∃ m, g.get? h = some m ∧ c ∈ (f m).children else g.Lists p c := by
  simp only [Lists, get?_update]
  split
  · constructor
    · rintro ⟨m, hm, hc⟩
      obtain ⟨m', hm', rfl⟩ := Option.map_eq_some_iff.mp hm
      exact ⟨m', hm', hc⟩
    · rintro ⟨m, hm, hc⟩
      exact ⟨f m, by simp [hm], hc⟩
  · rfl

theorem sameNodes_update (hf : ∀ n, (f n).pid = n.pid) : SameNodes g (g.update h f) where
  index_eq := rfl
  free_eq := rfl
  shape_eq := by
    apply Array.ext_getElem?
    intro i
    simpa [Array.getElem?_map] using update_slot (g := g) (h := h) (f := f) i
  pid_eq x := by
    rw [get?_update]
    split
    · subst x
      cases g.get? h <;> simp [hf]
    · rfl

theorem unlink_of_get?_none (hc : g.get? c = none) : g.unlink c = g := by
  simp [unlink, hc]

theorem unlink_of_parent_none (hc : g.get? c = some n) (hp : n.parent = none) :
    g.unlink c = g.update c fun n ↦ { n with parent := none } := by
  simp [unlink, hc, hp]

theorem unlink_of_parent (hc : g.get? c = some n) (hp : n.parent = some p) :
    g.unlink c = (g.update c fun n ↦ { n with parent := none }).update p
      fun m ↦ { m with children := m.children.filter (· != c) } := by
  simp [unlink, hc, hp]

theorem sameNodes_unlink : SameNodes g (g.unlink c) := by
  cases hc : g.get? c with
  | none => rw [unlink_of_get?_none hc]; exact SameNodes.refl
  | some n =>
    cases hp : n.parent with
    | none =>
      rw [unlink_of_parent_none hc hp]
      exact sameNodes_update (by intro; rfl)
    | some q =>
      rw [unlink_of_parent hc hp]
      exact (sameNodes_update (by intro; rfl)).trans (sameNodes_update (by intro; rfl))

theorem link_eq : g.link p c = (g.update p fun m ↦
    if m.children.contains c then m else { m with children := m.children ++ [c] }).update c
      fun n ↦ { n with parent := some p } := rfl

theorem sameNodes_link : SameNodes g (g.link p c) := by
  rw [link_eq]
  refine (sameNodes_update (fun m ↦ ?_)).trans (sameNodes_update (by intro; rfl))
  split <;> rfl

theorem name_update (hf : ∀ n, (f n).name = n.name) :
    ((g.update h f).get? x).map (·.name) = (g.get? x).map (·.name) := by
  rw [get?_update]
  split
  · subst x
    cases g.get? h <;> simp [hf]
  · rfl

theorem name_unlink : ((g.unlink c).get? x).map (·.name) = (g.get? x).map (·.name) := by
  cases hc : g.get? c with
  | none => rw [unlink_of_get?_none hc]
  | some n =>
    cases hp : n.parent with
    | none => rw [unlink_of_parent_none hc hp, name_update (by intro; rfl)]
    | some q => rw [unlink_of_parent hc hp, name_update (by intro; rfl), name_update (by intro; rfl)]

theorem name_link : ((g.link p c).get? x).map (·.name) = (g.get? x).map (·.name) := by
  rw [link_eq, name_update (by intro; rfl), name_update (fun m ↦ ?_)]
  split <;> rfl

theorem up_unlink : (g.unlink c).up x = if x = c then none else g.up x := by
  cases hc : g.get? c with
  | none =>
    rw [unlink_of_get?_none hc]
    split
    · subst x
      simp [up, hc]
    · rfl
  | some n =>
    cases hp : n.parent with
    | none =>
      rw [unlink_of_parent_none hc hp, up_update]
      split
      · simp [hc]
      · rfl
    | some q =>
      rw [unlink_of_parent hc hp, up_update, up_update, get?_update]
      by_cases hxc : x = c
      · subst hxc
        by_cases hxq : x = q <;> simp [hxq, hc]
      · by_cases hxq : x = q
        · subst hxq
          simp only [hxc, if_true, if_false, up]
          cases g.get? x <;> rfl
        · simp [hxc, hxq]

theorem lists_unlink : (g.unlink c).Lists p y ↔ g.Lists p y ∧ ¬ (g.Link c p ∧ y = c) := by
  cases hc : g.get? c with
  | none => simp [unlink_of_get?_none hc, Link, up, hc]
  | some n =>
    cases hpar : n.parent with
    | none =>
      rw [unlink_of_parent_none hc hpar, lists_update]
      have hl : ¬ g.Link c p := by simp [Link, up, hc, hpar]
      split
      · subst p
        simp [Lists, hc, hl]
      · simp [hl]
    | some q =>
      rw [unlink_of_parent hc hpar, lists_update]
      have hl : g.Link c p ↔ q = p := by simp [Link, up, hc, hpar]
      split
      · subst p
        simp only [hl, true_and]
        simp only [Lists, get?_update]
        split
        · subst q
          simp [hc]
        · simp only [List.mem_filter, bne_iff_ne, ne_eq]
          constructor
          · rintro ⟨m, hm, hy, hyc⟩
            exact ⟨⟨m, hm, hy⟩, hyc⟩
          · rintro ⟨⟨m, hm, hy⟩, hyc⟩
            exact ⟨m, hm, hy, hyc⟩
      · rw [lists_update, hl]
        split
        · subst p
          simp [Lists, hc, Ne.symm ‹¬c = q›]
        · simp [Ne.symm ‹¬p = q›]

end Graph

end KeystrokeTally.Proc
