import KeystrokeTally.Proofs.Graph.Pass

namespace KeystrokeTally.Proc.Graph

open Relation

variable {g g' g'' : Graph} {D D' : List Handle} {h c x y : Handle} {p : Pid} {m : Node}
  {f : Node → Node}

/-- How a removal may change a slot: it keeps its generation and whether it holds a node, or it
is emptied and its generation advances by one. -/
def SlotStep (s s' : Slot) : Prop :=
  (s'.generation = s.generation ∧ s'.node.isSome = s.node.isSome) ∨
    (s'.generation = s.generation + 1 ∧ s.node.isSome ∧ s'.node = none)

theorem SlotStep.refl (s : Slot) : SlotStep s s := Or.inl ⟨rfl, rfl⟩

theorem SlotStep.trans {s s' s'' : Slot} (h₁ : SlotStep s s') (h₂ : SlotStep s' s'') :
    SlotStep s s'' := by
  rcases h₁ with ⟨hg₁, hn₁⟩ | ⟨hg₁, hs₁, hn₁⟩ <;> rcases h₂ with ⟨hg₂, hn₂⟩ | ⟨hg₂, hs₂, hn₂⟩
  · exact Or.inl ⟨hg₂.trans hg₁, hn₂.trans hn₁⟩
  · exact Or.inr ⟨by rw [hg₂, hg₁], hn₁ ▸ hs₂, hn₂⟩
  · refine Or.inr ⟨by rw [hg₂, hg₁], hs₁, ?_⟩
    rw [hn₁, Option.isSome_none] at hn₂
    exact Option.isNone_iff_eq_none.mp (Option.isSome_eq_false_iff.mp hn₂)
  · rw [hn₁] at hs₂
    cases hs₂

/-- `g'` has no node, pid or link that `g` did not have, and each of its slots is the slot of `g`
or that slot emptied at the next generation. -/
structure Shrinks (g g' : Graph) : Prop where
  get_sub : ∀ {x n'}, g'.get? x = some n' → ∃ n, g.get? x = some n ∧ n.pid = n'.pid
  link_sub : ∀ {x y}, g'.Link x y → g.Link x y
  slots : ∀ i : Nat, Option.Rel SlotStep g.slots[i]? g'.slots[i]?

namespace Shrinks

theorem refl : Shrinks g g where
  get_sub hx := ⟨_, hx, rfl⟩
  link_sub := id
  slots i := by
    cases g.slots[i]? with
    | none => exact .none
    | some s => exact .some (.refl s)

theorem trans (h₁ : Shrinks g g') (h₂ : Shrinks g' g'') : Shrinks g g'' where
  get_sub hx := by
    obtain ⟨m, hm, hmp⟩ := h₂.get_sub hx
    obtain ⟨n, hn, hnp⟩ := h₁.get_sub hm
    exact ⟨n, hn, hnp.trans hmp⟩
  link_sub hl := h₁.link_sub (h₂.link_sub hl)
  slots i := by
    have h₁i := h₁.slots i
    have h₂i := h₂.slots i
    revert h₁i h₂i
    generalize g.slots[i]? = a
    generalize g'.slots[i]? = b
    generalize g''.slots[i]? = c
    intro h₁i h₂i
    cases h₁i with
    | none =>
      cases h₂i
      exact .none
    | some hab =>
      cases h₂i with
      | some hbc => exact .some (hab.trans hbc)

theorem live (hs : Shrinks g g') (hx : (g'.get? x).isSome) : (g.get? x).isSome := by
  obtain ⟨n', hn'⟩ := Option.isSome_iff_exists.mp hx
  obtain ⟨n, hn, -⟩ := hs.get_sub hn'
  simp [hn]

theorem index_sub (hs : Shrinks g g') (ha : g.ArenaWf) (ha' : g'.ArenaWf) {q : Pid}
    (hq : g'.index[q]? = some x) : g.index[q]? = some x := by
  obtain ⟨m, hm, rfl⟩ := ha'.index_get hq
  obtain ⟨m₀, hm₀, hp⟩ := hs.get_sub hm
  rw [← hp]
  exact ha.get_index hm₀

theorem of_sameNodes (hs : SameNodes g g') (hl : ∀ {x y}, g'.Link x y → g.Link x y) :
    Shrinks g g' where
  get_sub {x n'} hx := by
    have := hs.pid_eq x
    rw [hx, Option.map_some] at this
    obtain ⟨n, hn, he⟩ := Option.map_eq_some_iff.mp this.symm
    exact ⟨n, hn, he⟩
  link_sub := hl
  slots i := by
    have hi := congrArg (·[i]?) hs.shape_eq
    simp only [Array.getElem?_map] at hi
    revert hi
    generalize g.slots[i]? = a
    generalize g'.slots[i]? = b
    intro hi
    cases a <;> cases b
    · exact .none
    · cases hi
    · cases hi
    · simp only [Option.map_some, Option.some.injEq, Slot.shape, Prod.mk.injEq] at hi
      exact .some (Or.inl hi)

end Shrinks

theorem shrinks_unlink : Shrinks g (g.unlink c) :=
  .of_sameNodes sameNodes_unlink fun hl ↦ (link_of_link_unlink hl).2

theorem shrinks_update (hpid : ∀ n, (f n).pid = n.pid)
    (hpar : ∀ n, (f n).parent = n.parent ∨ (f n).parent = none) : Shrinks g (g.update h f) := by
  refine .of_sameNodes (sameNodes_update hpid) fun {x y} hl ↦ ?_
  unfold Link at hl
  rw [up_update] at hl
  split at hl
  · subst x
    obtain ⟨n, hn, hp⟩ := Option.bind_eq_some_iff.mp hl
    obtain ⟨n₀, hn₀, rfl⟩ := Option.map_eq_some_iff.mp hn
    rcases hpar n₀ with he | he
    · simp [Link, up, hn₀, ← he, hp]
    · rw [he] at hp
      cases hp
  · exact hl

def Spares (S : Handle → Prop) (g g' : Graph) : Prop :=
  ∀ ⦃x n⦄, ¬ S x → g.get? x = some n → ∃ n', g'.get? x = some n' ∧ n'.pid = n.pid ∧ n'.parent = n.parent

def Below (g : Graph) (p : Pid) (x : Handle) : Prop := ∃ h, g.index[p]? = some h ∧ ReflTransGen g.Link x h

namespace Spares

variable {S S' : Handle → Prop}

theorem refl : Spares S g g := fun _ n _ hn ↦ ⟨n, hn, rfl, rfl⟩

theorem mono (hs : Spares S g g') (hS : ∀ x, S x → S' x) : Spares S' g g' :=
  fun _ _ hx hn ↦ hs (fun h ↦ hx (hS _ h)) hn

theorem trans (h₁ : Spares S g g') (h₂ : Spares S g' g'') : Spares S g g'' := by
  intro x n hx hn
  obtain ⟨n', hn', hp, hpar⟩ := h₁ hx hn
  obtain ⟨n'', hn'', hp', hpar'⟩ := h₂ hx hn'
  exact ⟨n'', hn'', hp'.trans hp, hpar'.trans hpar⟩

end Spares

theorem spares_update {S : Handle → Prop} (hf : ∀ n, (f n).pid = n.pid ∧ (f n).parent = n.parent) :
    Spares S g (g.update h f) := by
  intro x n _ hn
  rw [get?_update]
  split
  · subst x
    rw [hn]
    exact ⟨f n, rfl, (hf n).1, (hf n).2⟩
  · exact ⟨n, hn, rfl, rfl⟩

theorem spares_update_self {S : Handle → Prop} (hS : S h) : Spares S g (g.update h f) := by
  intro x n hx hn
  rw [get?_update_of_ne fun (he : x = h) ↦ hx (he ▸ hS)]
  exact ⟨n, hn, rfl, rfl⟩

theorem spares_unlink {S : Handle → Prop} (hS : S c) : Spares S g (g.unlink c) := by
  unfold unlink
  split
  · exact .refl
  · rename_i n _
    cases n.parent with
    | none => exact spares_update_self hS
    | some q => exact (spares_update_self hS).trans (spares_update fun _ ↦ ⟨rfl, rfl⟩)

theorem ForestWf.of_sub (hf : g.ForestWf D) (hroot : g'.root = g.root)
    (hname : (g'.get? g'.root).map (·.name) = (g.get? g.root).map (·.name))
    (hlink : ∀ {x y}, g'.Link x y → g.Link x y)
    (hch : ∀ {x m'}, g'.get? x = some m' → ∃ m, g.get? x = some m ∧ m'.children.Sublist m.children)
    (parent_live : ∀ {c p}, g'.Link c p → (g'.get? p).isSome)
    (parent_lists : ∀ {c p}, g'.Link c p → g'.Lists p c ∨ p ∈ D')
    (lists_link : ∀ {p c}, g'.Lists p c → g'.Link c p)
    (pending : ∀ {d}, d ∈ D' → (g'.get? d).isSome ∧ g'.up d = none ∧ ∀ c, ¬ g'.Lists d c) :
    g'.ForestWf D' where
  root_name := by
    obtain ⟨n, hn, hnm⟩ := hf.root_name
    rw [hn, Option.map_some] at hname
    obtain ⟨n', hn', he⟩ := Option.map_eq_some_iff.mp hname
    exact ⟨n', hn', he.trans hnm⟩
  root_up := by
    cases hu : g'.up g'.root with
    | none => rfl
    | some y =>
      have := hlink hu
      rw [Link, hroot, hf.root_up] at this
      cases this
  parent_live := parent_live
  parent_lists := parent_lists
  lists_link := lists_link
  children_nodup {x m'} hx := by
    obtain ⟨m, hm, hs⟩ := hch hx
    exact (hf.children_nodup hm).sublist hs
  acyclic x hx := hf.acyclic x (TransGen.mono (fun _ _ hl ↦ hlink hl) x x hx)
  pending := pending

theorem up_takeChildren : (g.update h fun n ↦ { n with children := [] }).up x = g.up x :=
  up_update_of_parent (by intro; rfl)

theorem lists_takeChildren :
    (g.update h fun n ↦ { n with children := [] }).Lists x y ↔ x ≠ h ∧ g.Lists x y := by
  rw [lists_update]
  split
  · simp_all
  · simp_all

theorem Wf.takeChildren (hw : g.Wf D) (hh : (g.get? h).isSome) (hup : g.up h = none) (hD : h ∉ D) :
    (g.update h fun n ↦ { n with children := [] }).Wf (h :: D) := by
  have hs := sameNodes_update (g := g) (h := h) (f := fun n ↦ { n with children := [] })
    (by intro; rfl)
  refine ⟨hw.arena.of_sameNodes hs, hw.forest.of_sub hs.root_eq ?_ ?_ ?_ ?_ ?_ ?_ ?_⟩
  · rw [hs.root_eq]
    exact name_update (by intro; rfl)
  · intro x y hl
    rwa [Link, up_takeChildren] at hl
  · intro x m' hx
    exact children_sublist_update (by intro; exact List.nil_sublist _) hx
  · intro x q hl
    rw [Link, up_takeChildren] at hl
    rw [hs.live_iff]
    exact hw.forest.parent_live hl
  · intro x q hl
    rw [Link, up_takeChildren] at hl
    rw [lists_takeChildren, List.mem_cons]
    by_cases hq : q = h
    · exact Or.inr (Or.inl hq)
    · rcases hw.forest.parent_lists hl with hl' | hd
      · exact Or.inl ⟨hq, hl'⟩
      · exact Or.inr (Or.inr hd)
  · intro q y hl
    rw [Link, up_takeChildren]
    exact hw.forest.lists_link (lists_takeChildren.mp hl).2
  · intro d hd
    rw [hs.live_iff, up_takeChildren]
    rcases List.mem_cons.mp hd with rfl | hd
    · exact ⟨hh, hup, fun y hy ↦ (lists_takeChildren.mp hy).1 rfl⟩
    · obtain ⟨hl, hu, hno⟩ := hw.forest.pending hd
      exact ⟨hl, hu, fun y hy ↦ hno y (lists_takeChildren.mp hy).2⟩

theorem up_clearParent :
    (g.update c fun n ↦ { n with parent := none }).up x = if x = c then none else g.up x := by
  rw [up_update]
  split
  · subst x
    cases g.get? c <;> rfl
  · rfl

theorem link_clearParent (hl : (g.update c fun n ↦ { n with parent := none }).Link x y) :
    x ≠ c ∧ g.Link x y := by
  unfold Link at hl
  rw [up_clearParent] at hl
  split at hl
  · cases hl
  · exact ⟨‹_›, hl⟩

theorem Wf.clearParent (hw : g.Wf D) (hc : ∀ {q}, g.Link c q → q ∈ D) :
    (g.update c fun n ↦ { n with parent := none }).Wf D := by
  have hs := sameNodes_update (g := g) (h := c) (f := fun n ↦ { n with parent := none })
    (by intro; rfl)
  have hl : ∀ {q y}, (g.update c fun n ↦ { n with parent := none }).Lists q y ↔ g.Lists q y :=
    lists_update_of_children (by intro; rfl)
  refine ⟨hw.arena.of_sameNodes hs, hw.forest.of_sub hs.root_eq ?_ (fun h ↦ (link_clearParent h).2)
    ?_ ?_ ?_ ?_ ?_⟩
  · rw [hs.root_eq]
    exact name_update (by intro; rfl)
  · intro x m' hx
    exact children_sublist_update (by intro; exact List.Sublist.refl _) hx
  · intro x q hxq
    rw [hs.live_iff]
    exact hw.forest.parent_live (link_clearParent hxq).2
  · intro x q hxq
    rw [hl]
    exact hw.forest.parent_lists (link_clearParent hxq).2
  · intro q y hqy
    have hyq := hw.forest.lists_link (hl.mp hqy)
    have hyc : y ≠ c := by
      rintro rfl
      exact (hw.forest.pending (hc hyq)).2.2 _ (hl.mp hqy)
    rw [Link, up_clearParent, if_neg hyc]
    exact hyq
  · intro d hd
    obtain ⟨hlive, hup, hno⟩ := hw.forest.pending hd
    refine ⟨by rwa [hs.live_iff], ?_, fun y hy ↦ hno y (hl.mp hy)⟩
    rw [up_clearParent]
    split
    · rfl
    · exact hup

section Drop

variable (hh : g.get? h = some m)
include hh

theorem get?_drop :
    ({ g with index := g.index.erase p }.release h).get? x = if x = h then none else g.get? x :=
  get?_release (g := { g with index := g.index.erase p }) hh

theorem up_drop : ({ g with index := g.index.erase p }.release h).up x = if x = h then none else g.up x := by
  simp only [up, get?_drop hh]
  split <;> rfl

theorem lists_drop :
    ({ g with index := g.index.erase p }.release h).Lists x y ↔ x ≠ h ∧ g.Lists x y := by
  unfold Lists
  rw [get?_drop hh]
  split <;> simp_all

theorem shrinks_drop : Shrinks g ({ g with index := g.index.erase p }.release h) where
  get_sub {x n'} hx := by
    rw [get?_drop hh] at hx
    split at hx
    · cases hx
    · exact ⟨n', hx, rfl⟩
  link_sub {x y} hl := by
    unfold Link at hl
    rw [up_drop hh] at hl
    split at hl
    · cases hl
    · exact hl
  slots i := by
    have hrel := release_slots (g := { g with index := g.index.erase p }) hh i
    rw [hrel]
    split
    · next hi =>
      subst hi
      obtain ⟨s₀, hs₀, hgen, hnode⟩ := get?_eq_some_iff.mp hh
      rw [hs₀]
      exact .some (Or.inr ⟨by rw [hgen], by rw [hnode]; rfl, rfl⟩)
    · change Option.Rel SlotStep g.slots[i]? g.slots[i]?
      cases g.slots[i]? with
      | none => exact .none
      | some s => exact .some (.refl s)

theorem spares_drop {S : Handle → Prop} (hS : S h) :
    Spares S g ({ g with index := g.index.erase p }.release h) := by
  intro x n hx hn
  rw [get?_drop hh, if_neg fun (he : x = h) ↦ hx (he ▸ hS)]
  exact ⟨n, hn, rfl, rfl⟩

theorem not_mem_free_of_get? (ha : g.ArenaWf) : h.index ∉ g.free := by
  intro hmem
  obtain ⟨s, hs, hsn⟩ := ha.free_empty _ hmem
  obtain ⟨s', hs', -, hsn'⟩ := get?_eq_some_iff.mp hh
  rw [hs] at hs'
  cases hs'
  rw [hsn] at hsn'
  cases hsn'

theorem ArenaWf.drop (ha : g.ArenaWf) (hp : p ≠ rootPid) (hidx : g.index[p]? = some h) :
    ({ g with index := g.index.erase p }.release h).ArenaWf := by
  have hfree := release_free (g := { g with index := g.index.erase p }) hh
  have hempty : ∀ {i}, ({ g with index := g.index.erase p }.release h).EmptySlot i ↔
      g.EmptySlot i ∨ i = h.index :=
    emptySlot_release (g := { g with index := g.index.erase p }) hh
  refine ⟨?_, ?_, ?_, ?_, ?_, ?_, ?_⟩
  · intro q x hq
    rw [release_index, getElem?_erase_pid] at hq
    split at hq
    · cases hq
    · obtain ⟨n, hn, hnq⟩ := ha.index_get hq
      have hxh : x ≠ h := by
        rintro rfl
        exact ‹¬p = q› (ha.pid_eq_of_index hidx hq)
      exact ⟨n, by rw [get?_drop hh, if_neg hxh]; exact hn, hnq⟩
  · intro x n hx
    rw [get?_drop hh] at hx
    split at hx
    · cases hx
    · rw [release_index, getElem?_erase_pid, if_neg]
      · exact ha.get_index hx
      · intro hpn
        rw [hpn, ha.get_index hx] at hidx
        exact ‹¬x = h› (Option.some.inj hidx)
  · rw [release_index, getElem?_erase_pid, if_neg hp]
    exact ha.root_index
  · rw [hfree, List.nodup_cons]
    exact ⟨not_mem_free_of_get? (g := g) hh ha, ha.free_nodup⟩
  · intro i hi
    rw [hfree, List.mem_cons] at hi
    rcases hi with rfl | hi
    · exact hempty.mpr (Or.inr rfl)
    · exact hempty.mpr (Or.inl (ha.free_empty i hi))
  · intro i hi
    rw [hfree, List.mem_cons]
    rcases hempty.mp hi with hi | rfl
    · exact Or.inr (ha.empty_free hi)
    · exact Or.inl rfl
  · have hcount : ({ g with index := g.index.erase p }.release h).slots.countP (fun s : Slot ↦ s.node.isSome) + 1 =
        g.slots.countP (fun s : Slot ↦ s.node.isSome) :=
      liveCount_release (g := { g with index := g.index.erase p }) hh
    have hlive : g.slots.countP (fun s : Slot ↦ s.node.isSome) = g.index.size := ha.live_count
    have hmem : g.index.contains p = true := by
      simp [Std.TreeMap.contains_eq_isSome_getElem?, hidx]
    have herase : (g.index.erase p).size = g.index.size - 1 := by
      rw [Std.TreeMap.size_erase, hmem, if_pos rfl]
    show _ = ({ g with index := g.index.erase p }.release h).index.size
    rw [release_index]
    show _ = (g.index.erase p).size
    omega

theorem Wf.drop (hw : g.Wf (h :: D)) (hD : h ∉ D) (hp : p ≠ rootPid) (hidx : g.index[p]? = some h)
    (hno : ∀ x, ¬ g.Link x h) : ({ g with index := g.index.erase p }.release h).Wf D := by
  have hroot : ({ g with index := g.index.erase p }.release h).root = g.root := by
    simp only [root, release_index, getElem?_erase_pid, if_neg hp]
  have hrh : g.root ≠ h := by
    obtain ⟨n, hn, hnp⟩ := hw.arena.index_get hidx
    exact (hw.arena.ne_root hn (by rw [hnp]; exact hp)).symm
  have hhup := (hw.forest.pending List.mem_cons_self).2.1
  refine ⟨hw.arena.drop hh hp hidx, hw.forest.of_sub hroot ?_ (shrinks_drop hh).link_sub ?_ ?_ ?_ ?_ ?_⟩
  · rw [hroot, get?_drop hh, if_neg hrh]
  · intro x m' hx
    rw [get?_drop hh] at hx
    split at hx
    · cases hx
    · exact ⟨m', hx, List.Sublist.refl _⟩
  · intro x q hxq
    have hl := (shrinks_drop hh).link_sub hxq
    have hqh : q ≠ h := by
      rintro rfl
      exact hno x hl
    rw [get?_drop hh, if_neg hqh]
    exact hw.forest.parent_live hl
  · intro x q hxq
    have hl := (shrinks_drop hh).link_sub hxq
    have hqh : q ≠ h := by
      rintro rfl
      exact hno x hl
    rw [lists_drop hh]
    rcases hw.forest.parent_lists hl with hl' | hd
    · exact Or.inl ⟨hqh, hl'⟩
    · exact Or.inr ((List.mem_cons.mp hd).resolve_left hqh)
  · intro q y hqy
    obtain ⟨-, hqy⟩ := (lists_drop hh).mp hqy
    have hyq := hw.forest.lists_link hqy
    have hyh : y ≠ h := by
      rintro rfl
      rw [Link, hhup] at hyq
      cases hyq
    rw [Link, up_drop hh, if_neg hyh]
    exact hyq
  · intro d hd
    have hdh : d ≠ h := by
      rintro rfl
      exact hD hd
    obtain ⟨hlive, hup, hnol⟩ := hw.forest.pending (List.mem_cons_of_mem _ hd)
    rw [get?_drop hh, if_neg hdh, up_drop hh, if_neg hdh]
    exact ⟨hlive, hup, fun y hy ↦ hnol y ((lists_drop hh).mp hy).2⟩

end Drop

/-- One round of the loop over a removed node's children: a child that is gone is skipped;
otherwise it is unlinked, and removed in turn when its process is gone. -/
def removeChild (alive : Pid → Bool) (fuel : Nat) (g : Graph) (c : Handle) : Graph :=
  match g.get? c with
  | none => g
  | some n =>
    let g := g.update c fun n => { n with parent := none }
    if alive n.pid then g else removeTree alive fuel g n.pid

theorem removeTree_succ {alive : Pid → Bool} {fuel : Nat} (hp : p ≠ rootPid)
    (hi : g.index[p]? = some h) :
    removeTree alive (fuel + 1) g p =
      let g₁ := (g.unlink h).update h fun n ↦ { n with children := [] }
      let g₂ := ((((g.unlink h).get? h).map (·.children)).getD []).foldl (removeChild alive fuel) g₁
      { g₂ with index := g₂.index.erase p }.release h := by
  rw [removeTree]
  simp only [beq_iff_eq, hp, if_false, hi]
  rfl

theorem Wf.children_detached (hw : g.Wf D) (hm : g.get? h = some m) (hup : g.up h = none)
    (hD : h ∉ D) : (∀ c ∈ m.children, c ∉ h :: D ∧ g.Link c h) ∧ ∀ x, g.Link x h → x ∈ m.children := by
  refine ⟨fun c hc ↦ ?_, fun x hx ↦ ?_⟩
  · have hl : g.Link c h := hw.forest.lists_link ⟨m, hm, hc⟩
    refine ⟨?_, hl⟩
    rw [List.mem_cons, not_or]
    constructor
    · rintro rfl
      rw [Link, hup] at hl
      cases hl
    · intro hcd
      rw [Link, (hw.forest.pending hcd).2.1] at hl
      cases hl
  · rcases hw.forest.parent_lists hx with ⟨m', hm', hxm⟩ | hd
    · rw [hm] at hm'
      cases hm'
      exact hxm
    · exact absurd hd hD

theorem Wf.detach (hw : g.Wf D) (hi : g.index[p]? = some h) (hD : h ∉ D) :
    ∃ m, (g.unlink h).get? h = some m ∧
      ((g.unlink h).update h fun n ↦ { n with children := [] }).Wf (h :: D) ∧
      Shrinks g ((g.unlink h).update h fun n ↦ { n with children := [] }) ∧
      (∀ c ∈ m.children, c ∉ h :: D ∧ ((g.unlink h).update h fun n ↦ { n with children := [] }).Link c h) ∧
      ∀ x, ((g.unlink h).update h fun n ↦ { n with children := [] }).Link x h → x ∈ m.children := by
  obtain ⟨n, hn, -⟩ := hw.arena.index_get hi
  have hw₁ : (g.unlink h).Wf D := hw.unlink
  have hup₁ : (g.unlink h).up h = none := by rw [up_unlink, if_pos rfl]
  obtain ⟨m, hm⟩ : ∃ m, (g.unlink h).get? h = some m :=
    Option.isSome_iff_exists.mp (by rw [sameNodes_unlink.live_iff, hn]; rfl)
  obtain ⟨hcs, hcov⟩ := hw₁.children_detached hm hup₁ hD
  refine ⟨m, hm, hw₁.takeChildren (by simp [hm]) hup₁ hD,
    shrinks_unlink.trans (shrinks_update (by intro; rfl) (by intro; left; rfl)), fun c hc ↦ ?_, fun x hx ↦ ?_⟩
  · rw [Link, up_takeChildren]
    exact hcs c hc
  · rw [Link, up_takeChildren] at hx
    exact hcov x hx

theorem Wf.index_pending (hw : g'.Wf (h :: D)) (hs : Shrinks g g') {n : Node}
    (hn : g.get? h = some n) : g'.index[n.pid]? = some h := by
  obtain ⟨n', hn'⟩ := Option.isSome_iff_exists.mp (hw.forest.pending List.mem_cons_self).1
  obtain ⟨n₀, hn₀, hp⟩ := hs.get_sub hn'
  rw [hn] at hn₀
  cases hn₀
  rw [hp]
  exact hw.arena.get_index hn'

section Loop

variable {alive : Pid → Bool} {fuel : Nat}
  (ih : ∀ (g : Graph) (D : List Handle) (p : Pid), g.Wf D → (∀ x, g.index[p]? = some x → x ∉ D) →
    (removeTree alive fuel g p).Wf D ∧ Shrinks g (removeTree alive fuel g p) ∧
      Spares (g.Below p) g (removeTree alive fuel g p))
include ih

theorem removeChild_spec (hw : g.Wf (h :: D)) (hc : ∀ {q}, g.Link c q → q = h) (hcD : c ∉ h :: D) :
    (removeChild alive fuel g c).Wf (h :: D) ∧ Shrinks g (removeChild alive fuel g c) ∧
      ¬ (removeChild alive fuel g c).Link c h ∧
      Spares (fun x ↦ ReflTransGen g.Link x c) g (removeChild alive fuel g c) := by
  unfold removeChild
  cases hn : g.get? c with
  | none => exact ⟨hw, .refl, by simp [Link, up, hn], .refl⟩
  | some n =>
    dsimp only
    have hw₁ : (g.update c fun n ↦ { n with parent := none }).Wf (h :: D) :=
      hw.clearParent fun hl ↦ by rw [hc hl]; exact List.mem_cons_self
    have hs₁ : Shrinks g (g.update c fun n ↦ { n with parent := none }) :=
      shrinks_update (by intro; rfl) (by intro; right; rfl)
    have hno₁ : ¬ (g.update c fun n ↦ { n with parent := none }).Link c h := by
      simp [Link, up_clearParent]
    have hsp₁ : Spares (fun x ↦ ReflTransGen g.Link x c) g (g.update c fun n ↦ { n with parent := none }) :=
      spares_update_self .refl
    split
    · exact ⟨hw₁, hs₁, hno₁, hsp₁⟩
    · have hidx : (g.update c fun n ↦ { n with parent := none }).index[n.pid]? = some c :=
        hw₁.arena.get_index (n := { n with parent := none }) (by rw [get?_update_self, hn]; rfl)
      obtain ⟨hw₂, hs₂, hsp₂⟩ := ih _ _ n.pid hw₁ fun x hx ↦ by
        rw [hidx] at hx
        cases hx
        exact hcD
      refine ⟨hw₂, hs₁.trans hs₂, fun hl ↦ hno₁ (hs₂.link_sub hl), hsp₁.trans (hsp₂.mono ?_)⟩
      rintro x ⟨c', hc', hx⟩
      rw [hidx] at hc'
      cases hc'
      exact ReflTransGen.mono (fun _ _ ↦ hs₁.link_sub) _ _ hx

theorem removeChildren_spec {g₀ : Graph} {S : Handle → Prop} :
    ∀ (cs : List Handle) (g : Graph), (∀ c ∈ cs, c ∉ h :: D ∧ g₀.Link c h) →
      (∀ c ∈ cs, ∀ x, ReflTransGen g₀.Link x c → S x) → g.Wf (h :: D) →
      Shrinks g₀ g → (∀ x, g.Link x h → x ∈ cs) →
      (cs.foldl (removeChild alive fuel) g).Wf (h :: D) ∧
        Shrinks g₀ (cs.foldl (removeChild alive fuel) g) ∧
        (∀ x, ¬ (cs.foldl (removeChild alive fuel) g).Link x h) ∧
        Spares S g (cs.foldl (removeChild alive fuel) g)
  | [], g, _, _, hw, hs, hcov => ⟨hw, hs, fun x hx ↦ by simpa using hcov x hx, .refl⟩
  | c :: cs, g, hcs, hS, hw, hs, hcov => by
    obtain ⟨hcD, hc₀⟩ := hcs c List.mem_cons_self
    have hc : ∀ {q}, g.Link c q → q = h := fun hl ↦
      Option.some.inj ((hs.link_sub hl).symm.trans hc₀)
    obtain ⟨hw', hs', hno, hsp⟩ := removeChild_spec ih hw hc hcD
    have hcov' : ∀ x, (removeChild alive fuel g c).Link x h → x ∈ cs := by
      intro x hx
      rcases List.mem_cons.mp (hcov x (hs'.link_sub hx)) with rfl | hmem
      · exact absurd hx hno
      · exact hmem
    obtain ⟨hw'', hs'', hno', hsp'⟩ := removeChildren_spec cs _
      (fun c' hc' ↦ hcs c' (List.mem_cons_of_mem _ hc'))
      (fun c' hc' ↦ hS c' (List.mem_cons_of_mem _ hc')) hw' (hs.trans hs') hcov'
    exact ⟨hw'', hs'', hno', (hsp.mono fun x hx ↦ hS c List.mem_cons_self x
      (ReflTransGen.mono (fun _ _ ↦ hs.link_sub) _ _ hx)).trans hsp'⟩

end Loop

theorem removeTree_spec (alive : Pid → Bool) :
    ∀ (fuel : Nat) (g : Graph) (D : List Handle) (p : Pid), g.Wf D →
      (∀ x, g.index[p]? = some x → x ∉ D) →
      (removeTree alive fuel g p).Wf D ∧ Shrinks g (removeTree alive fuel g p) ∧
        Spares (g.Below p) g (removeTree alive fuel g p)
  | 0, g, D, p, hw, _ => by
    rw [removeTree]
    exact ⟨hw, .refl, .refl⟩
  | fuel + 1, g, D, p, hw, hD => by
    by_cases hp : p = rootPid
    · rw [removeTree, if_pos (by simpa using hp)]
      exact ⟨hw, .refl, .refl⟩
    cases hi : g.index[p]? with
    | none =>
      rw [removeTree]
      simp only [beq_iff_eq, hp, if_false, hi]
      exact ⟨hw, .refl, .refl⟩
    | some h =>
      rw [removeTree_succ hp hi]
      obtain ⟨n, hn, hnp⟩ := hw.arena.index_get hi
      have hhD := hD h hi
      obtain ⟨m, hm, hw₂, hs₂, hcs, hcov⟩ := hw.detach hi hhD
      simp only [hm, Option.map_some, Option.getD_some]
      have hbelow : ∀ x, ReflTransGen g.Link x h → g.Below p x := fun x hx ↦ ⟨h, hi, hx⟩
      obtain ⟨hw₃, hs₃, hno, hsp₃⟩ := removeChildren_spec (removeTree_spec alive fuel) m.children _ hcs
        (fun c hc x hx ↦ hbelow x ((ReflTransGen.mono (fun _ _ ↦ hs₂.link_sub) _ _ hx).tail
          (hs₂.link_sub (hcs c hc).2))) hw₂ .refl hcov
      have hidx := hw₃.index_pending (hs₂.trans hs₃) hn
      rw [hnp] at hidx
      obtain ⟨n₃, hn₃⟩ := Option.isSome_iff_exists.mp (hw₃.forest.pending List.mem_cons_self).1
      have hh := hbelow h .refl
      exact ⟨hw₃.drop hn₃ hhD hp hidx hno, hs₂.trans (hs₃.trans (shrinks_drop hn₃)),
        (spares_unlink hh).trans ((spares_update_self hh).trans (hsp₃.trans (spares_drop hn₃ hh)))⟩

theorem Consistent.remove (hw : g.Consistent) (alive : Pid → Bool) :
    (g.remove p alive).1.Consistent ∧ Shrinks g (g.remove p alive).1 := by
  unfold Graph.remove
  split
  · exact ⟨hw, .refl⟩
  · obtain ⟨hw', hs, -⟩ := removeTree_spec alive g.size g [] p hw fun _ _ ↦ List.not_mem_nil
    exact ⟨hw', hs⟩

theorem Consistent.spares_remove (hw : g.Consistent) (alive : Pid → Bool) :
    Spares (g.Below p) g (g.remove p alive).1 := by
  unfold Graph.remove
  split
  · exact .refl
  · exact (removeTree_spec alive g.size g [] p hw fun _ _ ↦ List.not_mem_nil).2.2

end KeystrokeTally.Proc.Graph
