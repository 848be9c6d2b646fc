import KeystrokeTally.Proofs.Graph.Consistent

namespace KeystrokeTally.Proc.Graph

open Relation

theorem acyclic_redirect {α : Type} {R R' : α → α → Prop} {c t : α} (hR : ∀ x, ¬ TransGen R x x)
    (hR' : ∀ x y, R' x y → (x = c ∧ y = t) ∨ (x ≠ c ∧ R x y)) (ht : ¬ ReflTransGen R t c) :
    ∀ x, ¬ TransGen R' x x := by
  have split : ∀ a b, ReflTransGen R' a b →
      ReflTransGen R a b ∨ (ReflTransGen R a c ∧ ReflTransGen R t b) := by
    intro a b hab
    induction hab with
    | refl => exact Or.inl ReflTransGen.refl
    | tail _ hbd ih =>
      rcases hR' _ _ hbd with ⟨rfl, rfl⟩ | ⟨hb, hbd⟩
      · rcases ih with hab | ⟨hac, -⟩
        · exact Or.inr ⟨hab, ReflTransGen.refl⟩
        · exact Or.inr ⟨hac, ReflTransGen.refl⟩
      · rcases ih with hab | ⟨hac, htb⟩
        · exact Or.inl (hab.tail hbd)
        · exact Or.inr ⟨hac, htb.tail hbd⟩
  intro x hx
  obtain ⟨y, hxy, hyx⟩ := TransGen.head'_iff.mp hx
  rcases hR' _ _ hxy with ⟨rfl, rfl⟩ | ⟨hxc, hxy⟩
  · rcases split _ _ hyx with hyx | ⟨hyc, -⟩
    · exact ht hyx
    · exact ht hyc
  · rcases split _ _ hyx with hyx | ⟨hyc, htx⟩
    · exact hR x (TransGen.head' hxy hyx)
    · exact ht (htx.trans (ReflTransGen.single hxy |>.trans hyc))

variable {g g' : Graph} {D : List Handle} {h c t p x y : Handle} {f : Node → Node}

theorem up_update_of_parent (hf : ∀ m, (f m).parent = m.parent) : (g.update h f).up x = g.up x := by
  rw [up_update]
  split
  · subst x
    cases hg : g.get? h <;> simp [up, hg, hf]
  · rfl

theorem lists_update_of_children (hf : ∀ m, (f m).children = m.children) :
    (g.update h f).Lists p y ↔ g.Lists p y := by
  rw [lists_update]
  split
  · subst p
    simp [Lists, hf]
  · rfl

theorem children_update_of_children (hf : ∀ m, (f m).children = m.children) :
    ((g.update h f).get? x).map (·.children) = (g.get? x).map (·.children) := by
  rw [get?_update]
  split
  · subst x
    cases g.get? h <;> simp [hf]
  · rfl

theorem ForestWf.transfer (hf : g.ForestWf D) (hroot : g'.root = g.root)
    (hlive : ∀ {x}, (g.get? x).isSome → (g'.get? x).isSome) (hup : ∀ x, g'.up x = g.up x)
    (hl : ∀ p y, g'.Lists p y ↔ g.Lists p y) (hnodup : ∀ {x m}, g'.get? x = some m → m.children.Nodup)
    (hname : (g'.get? g'.root).map (·.name) = (g.get? g.root).map (·.name)) : g'.ForestWf D where
  root_name := by
    obtain ⟨n, hn, hnm⟩ := hf.root_name
    rw [hn, Option.map_some] at hname
    obtain ⟨n', hn', he⟩ := Option.map_eq_some_iff.mp hname
    exact ⟨n', hn', he.trans hnm⟩
  root_up := by rw [hup, hroot, hf.root_up]
  parent_live {c p} hcp := hlive (hf.parent_live (by rwa [Link, ← hup]))
  parent_lists {c p} hcp := by
    rw [hl]
    exact hf.parent_lists (by rwa [Link, ← hup])
  lists_link {p c} hpc := by
    rw [Link, hup]
    exact hf.lists_link ((hl p c).mp hpc)
  children_nodup := hnodup
  acyclic := by
    have : g'.Link = g.Link := by
      funext a b
      simp only [Link, hup]
    unfold Acyclic
    rw [this]
    exact hf.acyclic
  pending {d} hd := by
    obtain ⟨hdl, hup', hno⟩ := hf.pending hd
    exact ⟨hlive hdl, by rw [hup, hup'], fun c hc ↦ hno c ((hl d c).mp hc)⟩

theorem ForestWf.nodup_of_children (hf : g.ForestWf D)
    (hch : ∀ x, (g'.get? x).map (·.children) = (g.get? x).map (·.children)) {x : Handle} {m : Node}
    (hm : g'.get? x = some m) : m.children.Nodup := by
  have := hch x
  rw [hm, Option.map_some] at this
  obtain ⟨m0, hm0, he⟩ := Option.map_eq_some_iff.mp this.symm
  rw [← he]
  exact hf.children_nodup hm0

theorem ForestWf.update (hf : g.ForestWf D) (hpid : ∀ m, (f m).pid = m.pid)
    (hpar : ∀ m, (f m).parent = m.parent) (hch : ∀ m, (f m).children = m.children)
    (hname : h = g.root → ∀ m, (f m).name = m.name) : (g.update h f).ForestWf D := by
  have hs := sameNodes_update (g := g) (h := h) hpid
  refine hf.transfer hs.root_eq (fun hx ↦ by rwa [hs.live_iff]) (fun _ ↦ up_update_of_parent hpar)
    (fun _ _ ↦ lists_update_of_children hch) (hf.nodup_of_children fun _ ↦ children_update_of_children hch) ?_
  rw [hs.root_eq]
  by_cases hr : h = g.root
  · exact name_update (hname hr)
  · rw [get?_update_of_ne (Ne.symm hr)]

theorem Wf.update (hw : g.Wf D) (hpid : ∀ m, (f m).pid = m.pid)
    (hpar : ∀ m, (f m).parent = m.parent) (hch : ∀ m, (f m).children = m.children)
    (hname : h = g.root → ∀ m, (f m).name = m.name) : (g.update h f).Wf D :=
  ⟨hw.arena.of_sameNodes (sameNodes_update hpid), hw.forest.update hpid hpar hch hname⟩

theorem children_sublist_update (hf : ∀ m, (f m).children.Sublist m.children) {m' : Node}
    (hx : (g.update h f).get? x = some m') : ∃ m, g.get? x = some m ∧ m'.children.Sublist m.children := by
  rw [get?_update] at hx
  split at hx
  · subst x
    obtain ⟨m, hm, rfl⟩ := Option.map_eq_some_iff.mp hx
    exact ⟨m, hm, hf m⟩
  · exact ⟨m', hx, List.Sublist.refl _⟩

theorem children_sublist_unlink {m' : Node} (hx : (g.unlink c).get? x = some m') :
    ∃ m, g.get? x = some m ∧ m'.children.Sublist m.children := by
  cases hc : g.get? c with
  | none =>
    rw [unlink_of_get?_none hc] at hx
    exact ⟨m', hx, List.Sublist.refl _⟩
  | some n =>
    cases hp : n.parent with
    | none =>
      rw [unlink_of_parent_none hc hp] at hx
      exact children_sublist_update (by intro; exact List.Sublist.refl _) hx
    | some q =>
      rw [unlink_of_parent hc hp] at hx
      obtain ⟨m₁, hm₁, hs₁⟩ := children_sublist_update (by intro; exact List.filter_sublist) hx
      obtain ⟨m, hm, hs⟩ := children_sublist_update (by intro; exact List.Sublist.refl _) hm₁
      exact ⟨m, hm, hs₁.trans hs⟩

theorem link_of_link_unlink (hl : (g.unlink c).Link x y) : x ≠ c ∧ g.Link x y := by
  unfold Link at hl
  rw [up_unlink] at hl
  split at hl
  · cases hl
  · exact ⟨‹_›, hl⟩

theorem ForestWf.unlink (hf : g.ForestWf D) : (g.unlink c).ForestWf D where
  root_name := by
    obtain ⟨n, hn, hnm⟩ := hf.root_name
    have := name_unlink (g := g) (c := c) (x := g.root)
    rw [hn, Option.map_some] at this
    obtain ⟨n', hn', he⟩ := Option.map_eq_some_iff.mp this
    exact ⟨n', by rwa [sameNodes_unlink.root_eq], he.trans hnm⟩
  root_up := by
    rw [sameNodes_unlink.root_eq, up_unlink]
    split
    · rfl
    · exact hf.root_up
  parent_live {x q} hxq := by
    rw [sameNodes_unlink.live_iff]
    exact hf.parent_live (link_of_link_unlink hxq).2
  parent_lists {x q} hxq := by
    obtain ⟨hxc, hl⟩ := link_of_link_unlink hxq
    rw [lists_unlink]
    rcases hf.parent_lists hl with hl | hd
    · exact Or.inl ⟨hl, fun h ↦ hxc h.2⟩
    · exact Or.inr hd
  lists_link {z y} hzy := by
    rw [lists_unlink] at hzy
    obtain ⟨hzy, hnot⟩ := hzy
    have hl := hf.lists_link hzy
    have hyc : y ≠ c := fun hyc ↦ hnot ⟨hyc ▸ hl, hyc⟩
    rw [Link, up_unlink, if_neg hyc]
    exact hl
  children_nodup {x m'} hx := by
    obtain ⟨m, hm, hs⟩ := children_sublist_unlink hx
    exact (hf.children_nodup hm).sublist hs
  acyclic x hx := hf.acyclic x (TransGen.mono (fun _ _ hl ↦ (link_of_link_unlink hl).2) x x hx)
  pending {d} hd := by
    obtain ⟨hlive, hup, hno⟩ := hf.pending hd
    refine ⟨by rwa [sameNodes_unlink.live_iff], ?_, fun y hy ↦ hno y (lists_unlink.mp hy).1⟩
    rw [up_unlink]
    split
    · rfl
    · exact hup

theorem Wf.unlink (hw : g.Wf D) : (g.unlink c).Wf D :=
  ⟨hw.arena.of_sameNodes sameNodes_unlink, hw.forest.unlink⟩

theorem up_link (hc : (g.get? c).isSome) : (g.link t c).up x = if x = c then some t else g.up x := by
  rw [link_eq, up_update]
  split
  · subst x
    obtain ⟨n, hn⟩ := Option.isSome_iff_exists.mp hc
    rw [get?_update]
    split
    · subst t
      simp [hn]
    · simp [hn]
  · exact up_update_of_parent (fun m ↦ by split <;> rfl)

theorem lists_link (ht : (g.get? t).isSome) :
    (g.link t c).Lists p y ↔ g.Lists p y ∨ (p = t ∧ y = c) := by
  rw [link_eq, lists_update_of_children (by intro; rfl), lists_update]
  obtain ⟨m, hm⟩ := Option.isSome_iff_exists.mp ht
  split
  · subst p
    simp only [Lists, hm, Option.some.injEq, exists_eq_left', true_and]
    split
    · constructor
      · exact Or.inl
      · rintro (hy | rfl)
        · exact hy
        · simpa using ‹m.children.contains y = true›
    · simp
  · simp [Ne.symm ‹¬p = t› |>.symm]

theorem children_link {m' : Node} (hx : (g.link t c).get? x = some m') :
    ∃ m, g.get? x = some m ∧
      (m'.children = m.children ∨ (x = t ∧ c ∉ m.children ∧ m'.children = m.children ++ [c])) := by
  rw [link_eq] at hx
  obtain ⟨m₁, hm₁, rfl⟩ := get?_update_eq_some hx
  obtain ⟨m, hm, rfl⟩ := get?_update_eq_some hm₁
  refine ⟨m, hm, ?_⟩
  have hc₁ : ∀ k : Node, (if x = c then { k with parent := some t } else k).children = k.children := by
    intro k
    split <;> rfl
  rw [hc₁]
  by_cases hxt : x = t
  · subst x
    by_cases hcm : c ∈ m.children
    · left
      simp [hcm]
    · right
      exact ⟨rfl, hcm, by simp [hcm]⟩
  · left
    simp [hxt]

theorem Consistent.link (hw : g.Consistent) (hc : (g.get? c).isSome) (hupc : g.up c = none)
    (ht : (g.get? t).isSome) (hroot : c ≠ g.root) (hreach : ¬ ReflTransGen g.Link t c) :
    (g.link t c).Consistent := by
  have hs : SameNodes g (g.link t c) := sameNodes_link
  have hup : ∀ x, (g.link t c).up x = if x = c then some t else g.up x := fun _ ↦ up_link hc
  have hl : ∀ p y, (g.link t c).Lists p y ↔ g.Lists p y ∨ (p = t ∧ y = c) := fun _ _ ↦ lists_link ht
  have hf := hw.forest
  refine ⟨hw.arena.of_sameNodes hs, ?_, ?_, ?_, ?_, ?_, ?_, ?_, ?_⟩
  · obtain ⟨n, hn, hnm⟩ := hf.root_name
    have := name_link (g := g) (p := t) (c := c) (x := g.root)
    rw [hn, Option.map_some] at this
    obtain ⟨n', hn', he⟩ := Option.map_eq_some_iff.mp this
    exact ⟨n', by rwa [hs.root_eq], he.trans hnm⟩
  · rw [hs.root_eq, hup, if_neg (Ne.symm hroot)]
    exact hf.root_up
  · intro x q hxq
    rw [hs.live_iff]
    unfold Link at hxq
    rw [hup] at hxq
    split at hxq
    · cases hxq
      exact ht
    · exact hf.parent_live hxq
  · intro x q hxq
    unfold Link at hxq
    rw [hup] at hxq
    split at hxq
    · cases hxq
      exact Or.inl ((hl _ _).mpr (Or.inr ⟨rfl, ‹_›⟩))
    · rcases hf.parent_lists hxq with hq | hq
      · exact Or.inl ((hl _ _).mpr (Or.inl hq))
      · exact Or.inr hq
  · intro z y hzy
    unfold Link
    rw [hup]
    rcases (hl z y).mp hzy with hold | ⟨hzt, hyc⟩
    · have hy : y ≠ c := by
        rintro rfl
        exact hf.not_lists hupc hold
      rw [if_neg hy]
      exact hf.lists_link hold
    · simp [hzt, hyc]
  · intro x m' hx
    obtain ⟨m, hm, hch | ⟨-, hcm, hch⟩⟩ := children_link hx
    · rw [hch]
      exact hf.children_nodup hm
    · rw [hch]
      exact (hf.children_nodup hm).append (List.nodup_singleton c) (by simpa using hcm)
  · refine acyclic_redirect hf.acyclic (fun x y hxy ↦ ?_) hreach
    unfold Link at hxy
    rw [hup] at hxy
    split at hxy
    · cases hxy
      exact Or.inl ⟨‹_›, rfl⟩
    · exact Or.inr ⟨‹_›, hxy⟩
  · intro d hd
    cases hd

theorem attach_eq : g.attach h p =
    if g.up h = some (if g.isAncestor h p then g.root else p) then g
    else (g.unlink h).link (if g.isAncestor h p then g.root else p) h := rfl

theorem sameNodes_attach : SameNodes g (g.attach h p) := by
  rw [attach_eq]
  generalize (if g.isAncestor h p then g.root else p) = t
  split
  · exact SameNodes.refl
  · exact sameNodes_unlink.trans sameNodes_link

theorem name_attach : ((g.attach h p).get? x).map (·.name) = (g.get? x).map (·.name) := by
  rw [attach_eq]
  generalize (if g.isAncestor h p then g.root else p) = t
  split
  · rfl
  · rw [name_link, name_unlink]

theorem up_attach (hh : (g.get? h).isSome) :
    (g.attach h p).up x = if x = h then some (if g.isAncestor h p then g.root else p) else g.up x := by
  rw [attach_eq]
  generalize (if g.isAncestor h p then g.root else p) = t
  split
  · split
    · subst x
      assumption
    · rfl
  · rw [up_link (by rwa [sameNodes_unlink.live_iff]), up_unlink]
    split
    · rfl
    · rfl

theorem Consistent.not_reach_root (hw : g.Consistent) (hroot : h ≠ g.root) :
    ¬ ReflTransGen g.Link g.root h := by
  intro hr
  obtain ⟨k, hk⟩ := reflTransGen_iff_above.mp hr
  cases k with
  | zero => exact hroot (Option.some.inj hk).symm
  | succ k => simp [above_succ, hw.forest.root_up] at hk

theorem Consistent.attach (hw : g.Consistent) (hh : (g.get? h).isSome) (hroot : h ≠ g.root)
    (hp : (g.get? p).isSome) : (g.attach h p).Consistent := by
  have hnot : ¬ ReflTransGen g.Link (if g.isAncestor h p then g.root else p) h := by
    by_cases ha : g.isAncestor h p
    · rw [if_pos ha]
      exact hw.not_reach_root hroot
    · rw [if_neg ha]
      exact fun hr ↦ ha ((isAncestor_iff hw.forest.acyclic).mpr hr)
  have htarget : (g.get? (if g.isAncestor h p then g.root else p)).isSome := by
    by_cases ha : g.isAncestor h p
    · rw [if_pos ha]
      obtain ⟨n, hn, -⟩ := hw.arena.root_get
      simp [hn]
    · rw [if_neg ha]
      exact hp
  rw [attach_eq]
  generalize (if g.isAncestor h p then g.root else p) = t at hnot htarget
  split
  · exact hw
  · have hs := sameNodes_unlink (g := g) (c := h)
    exact Consistent.link (Wf.unlink hw) (by rwa [hs.live_iff]) (by rw [up_unlink, if_pos rfl])
      (by rwa [hs.live_iff]) (by rwa [hs.root_eq])
      (fun hr ↦ hnot (ReflTransGen.mono (fun _ _ hl ↦ (link_of_link_unlink hl).2) _ _ hr))

end KeystrokeTally.Proc.Graph
