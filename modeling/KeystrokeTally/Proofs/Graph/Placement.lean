import KeystrokeTally.Proofs.Graph.Lineage

namespace KeystrokeTally.Proc

def Node.unlinked (n : Node) : Node := { n with parent := none, children := [] }

namespace Graph

open Relation

variable {g G : Graph} {h t c x y : Handle} {n : Node} {p q : Pid} {f : Node → Node}

theorem unlinked_update (hf : ∀ n, (f n).unlinked = n.unlinked) :
    ((g.update h f).get? x).map Node.unlinked = (g.get? x).map Node.unlinked := by
  rw [get?_update]
  split
  · subst x
    cases g.get? h <;> simp [hf]
  · rfl

theorem unlinked_unlink : ((g.unlink c).get? x).map Node.unlinked = (g.get? x).map Node.unlinked := by
  cases hc : g.get? c with
  | none => rw [unlink_of_get?_none hc]
  | some n =>
    cases hp : n.parent with
    | none => rw [unlink_of_parent_none hc hp, unlinked_update (by intro; rfl)]
    | some y => rw [unlink_of_parent hc hp, unlinked_update (by intro; rfl), unlinked_update (by intro; rfl)]

theorem unlinked_link : ((g.link y c).get? x).map Node.unlinked = (g.get? x).map Node.unlinked := by
  rw [link_eq, unlinked_update (by intro; rfl), unlinked_update fun m ↦ ?_]
  split <;> rfl

theorem unlinked_attach : ((g.attach h t).get? x).map Node.unlinked = (g.get? x).map Node.unlinked := by
  rw [attach_eq]
  generalize (if g.isAncestor h t then g.root else t) = r
  split
  · rfl
  · rw [unlinked_link, unlinked_unlink]

theorem exists_of_unlinked {m : Node} (hx : (g.get? x).map Node.unlinked = some m.unlinked) :
    ∃ n, g.get? x = some n ∧ n.pid = m.pid ∧ n.name = m.name ∧ n.origin = m.origin ∧ n.seen = m.seen := by
  obtain ⟨n, hn, he⟩ := Option.map_eq_some_iff.mp hx
  exact ⟨n, hn, (congrArg Node.pid he :), (congrArg Node.name he :), (congrArg Node.origin he :),
    (congrArg Node.seen he :)⟩

theorem children_attach (hx : x ≠ (if g.isAncestor h t then g.root else t)) (hu : g.up h ≠ some x) :
    ((g.attach h t).get? x).map (·.children) = (g.get? x).map (·.children) := by
  rw [attach_eq]
  generalize (if g.isAncestor h t then g.root else t) = r at hx
  split
  · rfl
  · rw [link_eq, children_update_of_children (by intro; rfl), get?_update_of_ne hx]
    cases hc : g.get? h with
    | none => rw [unlink_of_get?_none hc]
    | some n =>
      cases hp : n.parent with
      | none => rw [unlink_of_parent_none hc hp, children_update_of_children (by intro; rfl)]
      | some z =>
        have hz : x ≠ z := by
          rintro rfl
          exact hu (by simp [up, hc, hp])
        rw [unlink_of_parent hc hp, get?_update_of_ne hz, children_update_of_children (by intro; rfl)]

section Touch

variable (hw : g.Consistent) (name : String) (origin : Origin)
include hw

theorem Consistent.get?_touch_of_ne (hx : g.get? x = some n) (hp : n.pid ≠ p) :
    (g.touch p name origin).1.get? x = some n := by
  cases hi : g.index[p]? with
  | some h₀ =>
    have hne : x ≠ h₀ := by
      rintro rfl
      obtain ⟨m, hm, hmp⟩ := hw.arena.index_get hi
      rw [hx] at hm
      cases hm
      exact hp hmp
    rw [touch_of_some hi, get?_update_of_ne hne, hx]
  | none =>
    have hne : x ≠ (g.alloc ⟨p, name, origin, none, [], g.epoch⟩).2 := by
      rintro rfl
      rw [get?_alloc_handle hw.arena.free_empty] at hx
      cases hx
    rw [touch_of_none hi, get?_insertNew hw.arena.free_empty, if_neg hne, hx]

theorem Consistent.children_touch (hx : (g.get? x).isSome) :
    ((g.touch p name origin).1.get? x).map (·.children) = (g.get? x).map (·.children) := by
  cases hi : g.index[p]? with
  | some h₀ =>
    rw [touch_of_some hi]
    exact children_update_of_children (by intro; rfl)
  | none =>
    have hne : x ≠ (g.alloc ⟨p, name, origin, none, [], g.epoch⟩).2 := by
      rintro rfl
      rw [get?_alloc_handle hw.arena.free_empty] at hx
      cases hx
    rw [touch_of_none hi, get?_insertNew hw.arena.free_empty, if_neg hne]

theorem Consistent.touch_self :
    ∃ n, (g.touch p name origin).1.get? (g.touch p name origin).2 = some n ∧ n.pid = p ∧
      n.name = name ∧ n.origin = origin ∧
      n.children = (((g.get? (g.touch p name origin).2).map (·.children)).getD []) := by
  cases hi : g.index[p]? with
  | some h₀ =>
    obtain ⟨m, hm, hmp⟩ := hw.arena.index_get hi
    rw [touch_of_some hi]
    exact ⟨{ m with name := name, origin := origin, seen := g.epoch }, by rw [get?_update_self, hm]; rfl,
      hmp, rfl, rfl, by simp [hm]⟩
  | none =>
    rw [touch_of_none hi]
    exact ⟨_, by rw [get?_insertNew hw.arena.free_empty, if_pos rfl], rfl, rfl, rfl,
      by rw [get?_alloc_handle hw.arena.free_empty]; rfl⟩

end Touch

section Upsert

variable {lookup : Pid → Option Entry}

theorem noLookup_pid : ∀ (q : Pid) (pe : Entry), (none : Option Entry) = some pe → pe.pid = q := by
  intro _ _ h
  cases h

theorem unlinked_upsertWith_of_ne (hlookup : ∀ q pe, lookup q = some pe → pe.pid = q) :
    ∀ (fuel : Nat) (g : Graph) (notes : Array Note) (e : Entry) (origin : Origin), g.Consistent →
      ∀ x n, g.get? x = some n → n.pid ≠ e.pid →
        ((upsertWith lookup fuel (g, notes) e origin).1.1.get? x).map Node.unlinked = some n.unlinked
  | fuel, g, notes, e, origin, hw => by
    intro x n hx hne
    by_cases hp : e.pid = rootPid
    · have hxr : x ≠ g.root := hw.arena.ne_root hx (hp ▸ hne)
      rw [upsertWith_root hp, get?_update_of_ne hxr, hx]
      rfl
    rw [upsertWith.eq_1]
    simp only [beq_iff_eq, hp, if_false]
    have hg := hw.grown_touch hp e.name origin
    have h₁ := hw.get?_touch_of_ne e.name origin hx hne
    rcases ht : g.touch e.pid e.name origin with ⟨g₁, h₁'⟩
    rw [ht] at hg h₁
    have hrest : ∀ (G : Graph) (t : Handle), (G.get? x).map Node.unlinked = some n.unlinked →
        ((G.attach h₁' t).get? x).map Node.unlinked = some n.unlinked :=
      fun G t hG ↦ by rw [unlinked_attach, hG]
    cases fuel with
    | zero => exact hrest _ _ (by rw [h₁]; rfl)
    | succ k =>
      dsimp only
      cases hq : g₁.index[e.parent]? with
      | some ph => exact hrest _ _ (by rw [h₁]; rfl)
      | none =>
        have hne' : n.pid ≠ e.parent := by
          intro heq
          have hidx := hg.consistent.arena.get_index h₁
          rw [heq, hq] at hidx
          cases hidx
        cases hl : lookup e.parent with
        | some pe =>
          refine hrest _ _ (unlinked_upsertWith_of_ne hlookup k g₁ notes pe .observed hg.consistent x n h₁ ?_)
          rw [hlookup _ _ hl]
          exact hne'
        | none =>
          exact hrest _ _ (unlinked_upsertWith_of_ne hlookup k g₁ _ ⟨e.parent, rootPid, ""⟩ .placeholder
            hg.consistent x n h₁ hne')

theorem upsertWith_self (hlookup : ∀ q pe, lookup q = some pe → pe.pid = q) (fuel : Nat) (g : Graph)
    (notes : Array Note) (e : Entry) (origin : Origin) (hw : g.Consistent) (hp : e.pid ≠ rootPid) :
    ∃ n, (upsertWith lookup fuel (g, notes) e origin).1.1.get? (upsertWith lookup fuel (g, notes) e origin).2 =
      some n ∧ n.pid = e.pid ∧ n.name = e.name ∧ n.origin = origin := by
  rw [upsertWith.eq_1]
  simp only [beq_iff_eq, hp, if_false]
  have hg := hw.grown_touch hp e.name origin
  obtain ⟨m, hm, hmp, hmn, hmo, -⟩ := hw.touch_self (p := e.pid) e.name origin
  rcases ht : g.touch e.pid e.name origin with ⟨g₁, h₁⟩
  rw [ht] at hg hm
  have hrest : ∀ (G : Graph) (t : Handle), (G.get? h₁).map Node.unlinked = some m.unlinked →
      ∃ n, (G.attach h₁ t).get? h₁ = some n ∧ n.pid = e.pid ∧ n.name = e.name ∧ n.origin = origin := by
    intro G t hG
    obtain ⟨n, hn, hnp, hnn, hno, -⟩ := exists_of_unlinked (g := G.attach h₁ t) (x := h₁)
      (by rw [unlinked_attach, hG])
    exact ⟨n, hn, hnp.trans hmp, hnn.trans hmn, hno.trans hmo⟩
  cases fuel with
  | zero => exact hrest _ _ (by rw [hm]; rfl)
  | succ k =>
    dsimp only
    cases hq : g₁.index[e.parent]? with
    | some ph => exact hrest _ _ (by rw [hm]; rfl)
    | none =>
      cases hl : lookup e.parent with
      | some pe =>
        refine hrest _ _ (unlinked_upsertWith_of_ne hlookup k g₁ notes pe .observed hg.consistent h₁ m hm ?_)
        rw [hlookup _ _ hl, hmp]
        exact (Entry.parent_ne_pid hp).symm
      | none =>
        exact hrest _ _ (unlinked_upsertWith_of_ne hlookup k g₁ _ ⟨e.parent, rootPid, ""⟩ .placeholder
          hg.consistent h₁ m hm (hmp ▸ (Entry.parent_ne_pid hp).symm))

theorem children_upsertWith_placeholder (hw : g.Consistent) (hq : g.index[q]? = none) (fuel : Nat)
    (notes : Array Note) (hx : (g.get? x).isSome) (hxr : x ≠ g.root) :
    ((upsertWith lookup fuel (g, notes) ⟨q, rootPid, ""⟩ .placeholder).1.1.get? x).map (·.children) =
      (g.get? x).map (·.children) := by
  have hqr : q ≠ rootPid := fun h ↦ by rw [h, hw.arena.index_root] at hq; cases hq
  have hnew : g.get? (g.touch q "" .placeholder).2 = none := by
    rw [touch_of_none hq]
    exact get?_alloc_handle hw.arena.free_empty
  have hup : (g.touch q "" .placeholder).1.up (g.touch q "" .placeholder).2 = none := by
    rw [up_touch hw, up, hnew, Option.bind_none]
  have hch := hw.children_touch (p := q) "" .placeholder hx
  have hroot : (g.touch q "" .placeholder).1.root = g.root := by
    simp only [root, touch_index_of_ne (Ne.symm hqr)]
  have hg := hw.grown_touch hqr "" .placeholder
  rw [upsertWith.eq_1]
  simp only [beq_iff_eq, hqr, if_false, parent_placeholder]
  rcases ht : g.touch q "" .placeholder with ⟨g₁, t⟩
  rw [ht] at hup hch hroot hg
  have hjoin : ((g₁.attach t g₁.root).get? x).map (·.children) = (g.get? x).map (·.children) := by
    rw [children_attach (by rw [ite_self]; exact hroot ▸ hxr) (by rw [hup]; simp), hch]
  cases fuel with
  | zero => exact hjoin
  | succ k =>
    dsimp only
    rw [hg.consistent.arena.index_root]
    exact hjoin

end Upsert

section Shapes

variable {e : Entry}

theorem upsert_of_tracked (hp : e.pid ≠ rootPid) (ht : g.index[e.parent]? = some t) :
    g.upsert e = ((g.touch e.pid e.name .observed).1.attach (g.touch e.pid e.name .observed).2 t,
      (g.touch e.pid e.name .observed).2) := by
  have ht₁ : (g.touch e.pid e.name .observed).1.index[e.parent]? = some t :=
    (touch_index_of_ne (Entry.parent_ne_pid hp)).trans ht
  rw [upsert_eq, upsertWith.eq_1]
  simp only [beq_iff_eq, hp, if_false]
  rcases htouch : g.touch e.pid e.name .observed with ⟨g₁, h₁⟩
  rw [htouch] at ht₁
  simp [chaseLimit, ht₁, attachNoting_fst]

theorem upsert_of_untracked (hp : e.pid ≠ rootPid) (ht : g.index[e.parent]? = none) :
    g.upsert e =
      ((upsertWith (fun _ ↦ none) (chaseLimit - 1) ((g.touch e.pid e.name .observed).1,
          #[.placeholder e.parent]) ⟨e.parent, rootPid, ""⟩ .placeholder).1.1.attach
        (g.touch e.pid e.name .observed).2
        (upsertWith (fun _ ↦ none) (chaseLimit - 1) ((g.touch e.pid e.name .observed).1,
          #[.placeholder e.parent]) ⟨e.parent, rootPid, ""⟩ .placeholder).2,
      (g.touch e.pid e.name .observed).2) := by
  have ht₁ : (g.touch e.pid e.name .observed).1.index[e.parent]? = none :=
    (touch_index_of_ne (Entry.parent_ne_pid hp)).trans ht
  rw [upsert_eq, upsertWith.eq_1]
  simp only [beq_iff_eq, hp, if_false]
  rcases htouch : g.touch e.pid e.name .observed with ⟨g₁, h₁⟩
  rw [htouch] at ht₁
  simp [chaseLimit, ht₁, attachNoting_fst]

/-- What an insertion of `e` into `g` has built by the time it links the node `h` of `e.pid`
below `t`, the node of the declared parent: both pids are tracked, no node of `g` has moved, no
children list but the root's has changed, the node `h` keeps its children (none when new), and
the guard fires exactly when the declared parent lies below `e.pid` in `g`. -/
structure Prepared (g G : Graph) (e : Entry) (h t : Handle) : Prop where
  consistent : G.Consistent
  index_self : G.index[e.pid]? = some h
  index_parent : G.index[e.parent]? = some t
  index_mono : ∀ {q : Pid} {x : Handle}, g.index[q]? = some x → G.index[q]? = some x
  root_eq : G.root = g.root
  up_keep : ∀ x, (g.get? x).isSome ∨ x = h → G.up x = g.up x
  children_self : (G.get? h).map (·.children) = some (((g.get? h).map (·.children)).getD [])
  children_keep : ∀ x, (g.get? x).isSome → x ≠ g.root → (G.get? x).map (·.children) = (g.get? x).map (·.children)
  guard : G.isAncestor h t = true ↔ TransGen g.ChildEdge e.pid e.parent

section Prepare

variable (hw : g.Consistent) (hp : e.pid ≠ rootPid)
include hw hp

theorem Consistent.guard_touch (ht : g.index[e.parent]? = some t) :
    (g.touch e.pid e.name .observed).1.isAncestor (g.touch e.pid e.name .observed).2 t = true ↔
      TransGen g.ChildEdge e.pid e.parent := by
  have hg := hw.grown_touch hp e.name .observed
  have hlink : (g.touch e.pid e.name .observed).1.Link = g.Link := by
    funext a b
    simp only [Link, up_touch hw]
  rw [isAncestor_iff hg.consistent.forest.acyclic, hlink, hw.transGen_childEdge_iff]
  cases hi : g.index[e.pid]? with
  | some h₀ =>
    have hne : t ≠ h₀ := fun he ↦ Entry.parent_ne_pid hp (hw.arena.pid_eq_of_index (he ▸ ht) hi)
    rw [touch_of_some hi]
    constructor
    · intro hr
      rcases hr.cases_head with he | ⟨z, htz, hzh⟩
      · exact absurd he hne
      · exact ⟨h₀, t, rfl, ht, TransGen.head' htz hzh⟩
    · rintro ⟨x, y, hx, hy, hyx⟩
      rw [hy] at ht
      cases hx
      cases ht
      exact hyx.to_reflTransGen
  | none =>
    have hdead := get?_alloc_handle (n := ⟨e.pid, e.name, .observed, none, [], g.epoch⟩) hw.arena.free_empty
    rw [touch_of_none hi]
    constructor
    · intro hr
      exfalso
      rcases hr.cases_tail with he | ⟨z, -, hzh⟩
      · obtain ⟨m, hm, -⟩ := hw.arena.index_get ht
        rw [← he, hdead] at hm
        cases hm
      · have hlive := hw.forest.parent_live hzh
        rw [hdead] at hlive
        cases hlive
    · rintro ⟨x, y, hx, -⟩
      cases hx

theorem Consistent.prepared_upsert :
    ∃ G t, g.upsert e = (G.attach (g.touch e.pid e.name .observed).2 t, (g.touch e.pid e.name .observed).2) ∧
      Prepared g G e (g.touch e.pid e.name .observed).2 t := by
  have hg := hw.grown_touch hp e.name .observed
  obtain ⟨m, hm, -, -, -, hmc⟩ := hw.touch_self (p := e.pid) e.name .observed
  have hroot₁ : (g.touch e.pid e.name .observed).1.root = g.root := by
    simp only [root, touch_index_of_ne (Ne.symm hp)]
  have hself : ((g.touch e.pid e.name .observed).1.get? (g.touch e.pid e.name .observed).2).map (·.children) =
      some (((g.get? (g.touch e.pid e.name .observed).2).map (·.children)).getD []) := by
    rw [hm, Option.map_some, hmc]
  cases ht : g.index[e.parent]? with
  | some t =>
    refine ⟨_, t, upsert_of_tracked hp ht, hg.consistent, hg.index_self,
      (touch_index_of_ne (Entry.parent_ne_pid hp)).trans ht, hg.index_mono, hroot₁, fun _ _ ↦ up_touch hw, hself,
      fun _ hx _ ↦ hw.children_touch _ _ hx, hw.guard_touch hp ht⟩
  | none =>
    have ht₁ : (g.touch e.pid e.name .observed).1.index[e.parent]? = none :=
      (touch_index_of_ne (Entry.parent_ne_pid hp)).trans ht
    have hqr : e.parent ≠ rootPid := fun h ↦ by rw [h, hw.arena.index_root] at ht; cases ht
    have hi := inserted_upsertWith noLookup_pid (chaseLimit - 1)
      (g.touch e.pid e.name .observed).1 #[.placeholder e.parent] ⟨e.parent, rootPid, ""⟩ .placeholder
      hg.consistent
    have hnew := hi.new_of_index hg.consistent ht₁ hi.index_self
    have hne : ∀ {x}, ((g.touch e.pid e.name .observed).1.get? x).isSome →
        x ≠ (upsertWith (fun _ ↦ none) (chaseLimit - 1) ((g.touch e.pid e.name .observed).1,
          #[.placeholder e.parent]) ⟨e.parent, rootPid, ""⟩ .placeholder).2 := by
      rintro x hx rfl
      rw [hnew] at hx
      cases hx
    have hroot : (upsertWith (fun _ ↦ none) (chaseLimit - 1) ((g.touch e.pid e.name .observed).1,
        #[.placeholder e.parent]) ⟨e.parent, rootPid, ""⟩ .placeholder).1.1.root = g.root := by
      rw [← hroot₁]
      simp only [root, hi.index_mono hg.consistent.arena.index_root, Option.getD_some]
    have hhr : (g.touch e.pid e.name .observed).2 ≠ (g.touch e.pid e.name .observed).1.root := by
      obtain ⟨n, hn, hnp⟩ := hg.consistent.arena.index_get hg.index_self
      exact hg.consistent.arena.ne_root hn (hnp ▸ hp)
    refine ⟨_, _, upsert_of_untracked hp ht, hi.consistent, hi.index_mono hg.index_self, hi.index_self,
      fun hq ↦ hi.index_mono (hg.index_mono hq), hroot, fun x hx ↦ ?_, ?_, fun x hx hxr ↦ ?_, ?_⟩
    · have hx₁ : ((g.touch e.pid e.name .observed).1.get? x).isSome := by
        rcases hx with hx | rfl
        · exact hg.live_mono hw hx
        · exact hg.live_self
      rw [hi.up_frame hx₁ (hne hx₁), up_touch hw]
    · rw [children_upsertWith_placeholder hg.consistent ht₁ _ _ hg.live_self hhr, hself]
    · rw [children_upsertWith_placeholder hg.consistent ht₁ _ _ (hg.live_mono hw hx) (hroot₁ ▸ hxr),
        hw.children_touch _ _ hx]
    · -- the parent, so nothing lies below the pid there
      rw [hi.consistent.isAncestor_of_up_root (up_upsertWith_placeholder hg.consistent hqr _ _ _)
        (hne hg.live_self) (by rw [hroot, ← hroot₁]; exact hhr), hw.transGen_childEdge_iff]
      simp only [Bool.false_eq_true, false_iff, not_exists, not_and]
      intro _ y _ hy
      rw [ht] at hy
      cases hy

end Prepare

theorem live_of_link (hl : g.Link c y) : (g.get? c).isSome := by
  unfold Link up at hl
  cases hc : g.get? c with
  | none => rw [hc] at hl; cases hl
  | some _ => rfl

namespace Prepared

variable (hP : Prepared g G e h t)
include hP

theorem pidOf_attach (hw : g.Consistent) (hx : (g.get? x).isSome) : (G.attach h t).pidOf x = g.pidOf x := by
  obtain ⟨n, hn⟩ := Option.isSome_iff_exists.mp hx
  have hi := hw.arena.get_index hn
  show ((G.attach h t).get? x).map (·.pid) = _
  rw [sameNodes_attach.pid_eq]
  exact (hP.consistent.pidOf_iff.mpr (hP.index_mono hi)).trans (hw.pidOf_iff.mpr hi).symm

open scoped Classical in
theorem parentOf_self : (G.attach h t).parentOf e.pid =
    some (if TransGen g.ChildEdge e.pid e.parent then rootPid else e.parent) := by
  rw [parentOf_attach hP.consistent hP.index_self, if_pos rfl]
  by_cases hc : TransGen g.ChildEdge e.pid e.parent
  · rw [if_pos (hP.guard.mpr hc), if_pos hc]
    exact hP.consistent.pidOf_iff.mpr hP.consistent.arena.index_root
  · rw [if_neg (mt hP.guard.mp hc), if_neg hc]
    exact hP.consistent.pidOf_iff.mpr hP.index_parent

theorem children_below (hw : g.Consistent) (hp : e.pid ≠ rootPid) (hy : ReflTransGen g.Link y h) :
    ((G.attach h t).get? y).map (·.children) = some (((g.get? y).map (·.children)).getD []) := by
  have hG := hP.consistent
  have hlink : ∀ {a b}, g.Link a b → G.Link a b := fun hab ↦ by
    rw [Link, hP.up_keep _ (Or.inl (live_of_link hab))]
    exact hab
  have hhr : h ≠ G.root := by
    obtain ⟨n, hn, hnp⟩ := hG.arena.index_get hP.index_self
    exact hG.arena.ne_root hn (hnp ▸ hp)
  have hyr : y ≠ G.root := by
    rcases reflTransGen_iff_eq_or_transGen.mp hy with rfl | hyh
    · exact hhr
    · obtain ⟨z, hz, -⟩ := TransGen.head'_iff.mp hyh
      intro hyr
      have := hlink hz
      rw [Link, hyr, hG.forest.root_up] at this
      cases this
  have hyt : y ≠ (if G.isAncestor h t then G.root else t) := by
    by_cases hanc : G.isAncestor h t = true
    · rw [if_pos hanc]
      exact hyr
    · rw [if_neg hanc]
      rintro rfl
      exact hanc ((isAncestor_iff hG.forest.acyclic).mpr (hy.lift id fun _ _ ↦ hlink))
  have hup : G.up h ≠ some y := by
    rw [hP.up_keep h (Or.inr rfl)]
    exact fun hhy ↦ hw.forest.acyclic h (TransGen.head' hhy hy)
  rw [children_attach hyt hup]
  rcases reflTransGen_iff_eq_or_transGen.mp hy with rfl | hyh
  · exact hP.children_self
  · obtain ⟨z, hz, -⟩ := TransGen.head'_iff.mp hyh
    obtain ⟨n, hn⟩ := Option.isSome_iff_exists.mp (live_of_link hz)
    rw [hP.children_keep y (live_of_link hz) (hP.root_eq ▸ hyr), hn]
    rfl

theorem childrenOf_of_index (hw : g.Consistent) (hp : e.pid ≠ rootPid) (hx : g.index[q]? = some y)
    (hy : ReflTransGen g.Link y h) : (G.attach h t).childrenOf q = g.childrenOf q := by
  obtain ⟨n, hn, -⟩ := hw.arena.index_get hx
  have hch := hP.children_below hw hp hy
  rw [hn, Option.map_some, Option.getD_some] at hch
  obtain ⟨n', hn', hc⟩ := Option.map_eq_some_iff.mp hch
  have hx' : (G.attach h t).index[q]? = some y := by
    rw [sameNodes_attach.index_eq]
    exact hP.index_mono hx
  rw [childrenOf_of_node hx' hn', childrenOf_of_node hx hn, hc,
    List.filterMap_congr fun c hc ↦ hP.pidOf_attach hw (live_of_link (hw.forest.lists_link ⟨n, hn, hc⟩))]

theorem childrenOf_self_of_none (hw : g.Consistent) (hp : e.pid ≠ rootPid) (hi : g.index[e.pid]? = none) :
    (G.attach h t).childrenOf e.pid = g.childrenOf e.pid := by
  have hdead : g.get? h = none := by
    cases hn : g.get? h with
    | none => rfl
    | some n =>
      have hpid := hP.consistent.arena.pid_eq_of_index (hP.index_mono (hw.arena.get_index hn)) hP.index_self
      rw [← hpid, hw.arena.get_index hn] at hi
      cases hi
  have hch := hP.children_below hw hp .refl
  rw [hdead, Option.map_none, Option.getD_none] at hch
  obtain ⟨n', hn', hc⟩ := Option.map_eq_some_iff.mp hch
  have hx' : (G.attach h t).index[e.pid]? = some h := by
    rw [sameNodes_attach.index_eq]
    exact hP.index_self
  rw [childrenOf_of_node hx' hn', hc, childrenOf_of_none hi, List.filterMap_nil, List.mergeSort_nil]

theorem childrenOf_subtree (hw : g.Consistent) (hp : e.pid ≠ rootPid) (hq : ReflTransGen g.ChildEdge e.pid q) :
    (G.attach h t).childrenOf q = g.childrenOf q := by
  have hself : ∀ {x}, g.index[e.pid]? = some x → x = h := fun hx ↦
    Option.some.inj ((hP.index_mono hx).symm.trans hP.index_self)
  rcases reflTransGen_iff_eq_or_transGen.mp hq with rfl | hpq
  · cases hi : g.index[e.pid]? with
    | none => exact hP.childrenOf_self_of_none hw hp hi
    | some x => exact hP.childrenOf_of_index hw hp hi (hself hi ▸ .refl)
  · obtain ⟨x, y, hx, hy, hyx⟩ := hw.transGen_childEdge_iff.mp hpq
    exact hP.childrenOf_of_index hw hp hy (hself hx ▸ hyx.to_reflTransGen)

end Prepared

end Shapes

theorem contains_eq_isSome : g.contains q = (g.index[q]?).isSome := by
  unfold contains
  exact Std.TreeMap.contains_eq_isSome_getElem?

theorem contains_of_index (hx : g.index[q]? = some x) : g.contains q = true := by
  rw [contains_eq_isSome, hx]
  rfl

theorem contains_eq_false (hx : g.index[q]? = none) : g.contains q = false := by
  rw [contains_eq_isSome, hx]
  rfl

theorem exists_index_of_contains (hc : g.contains q = true) : ∃ x, g.index[q]? = some x :=
  Option.isSome_iff_exists.mp (contains_eq_isSome ▸ hc)

theorem size_eq_card : g.size = g.pids.toFinset.card := by
  rw [pids, List.toFinset_card_of_nodup Std.TreeMap.nodup_keys]
  exact Std.TreeMap.length_keys.symm

theorem mem_pids_toFinset : q ∈ g.pids.toFinset ↔ g.contains q = true := by
  rw [List.mem_toFinset, pids, Std.TreeMap.mem_keys, Std.TreeMap.mem_iff_contains]
  rfl

theorem size_of_contains_iff {g' : Graph} {a b : Pid} (hab : a ≠ b)
    (hc : ∀ q, g'.contains q = true ↔ g.contains q = true ∨ q = a ∨ q = b) :
    g'.size = g.size + (if g.contains a then 0 else 1) + (if g.contains b then 0 else 1) := by
  have hset : g'.pids.toFinset = insert a (insert b g.pids.toFinset) := by
    ext q
    simp only [Finset.mem_insert, mem_pids_toFinset, hc]
    tauto
  rw [size_eq_card, size_eq_card, hset, Finset.card_insert_eq_ite, Finset.card_insert_eq_ite]
  simp only [Finset.mem_insert, mem_pids_toFinset, hab, false_or]
  split_ifs <;> omega

theorem name_origin_of_unlinked {g' : Graph}
    (hu : (g'.find? q).map Node.unlinked = (g.find? q).map Node.unlinked) :
    g'.nameOf q = g.nameOf q ∧ (g'.find? q).map (·.origin) = (g.find? q).map (·.origin) := by
  unfold nameOf
  revert hu
  cases g'.find? q <;> cases g.find? q <;> simp only [Option.map_none, Option.map_some, reduceCtorEq,
    Option.some.injEq, imp_self, false_imp_iff, true_and]
  intro hu
  exact ⟨(congrArg Node.name hu :), (congrArg Node.origin hu :)⟩

section Exact

variable {e : Entry} (hw : g.Consistent)
include hw

theorem Consistent.find?_upsert_self (hp : e.pid ≠ rootPid) :
    ∃ n, (g.upsert e).1.find? e.pid = some n ∧ n.name = e.name ∧ n.origin = .observed := by
  have hi := inserted_upsert (e := e) hw
  rw [upsert_eq] at hi ⊢
  obtain ⟨n, hn, -, hname, horigin⟩ :=
    upsertWith_self noLookup_pid chaseLimit g #[] e .observed hw hp
  exact ⟨n, by simp only [find?, hi.index_self, Option.bind_some, hn], hname, horigin⟩

theorem Consistent.unlinked_upsert (hq : q ≠ e.pid) (hc : g.contains q = true) :
    ((g.upsert e).1.find? q).map Node.unlinked = (g.find? q).map Node.unlinked := by
  obtain ⟨x, hx⟩ := exists_index_of_contains hc
  obtain ⟨n, hn, rfl⟩ := hw.arena.index_get hx
  have hx' := (inserted_upsert (e := e) hw).index_mono hx
  rw [upsert_eq] at hx' ⊢
  simp only [find?, hx', hx, Option.bind_some, hn, Option.map_some]
  exact unlinked_upsertWith_of_ne (by intro _ _ h; cases h) chaseLimit g #[] e .observed hw x n hn hq

theorem Consistent.upsert_placeholder (hp : e.pid ≠ rootPid) (hc : g.contains e.parent = false) :
    ((g.upsert e).1.find? e.parent).map (fun n ↦ (n.name, n.origin)) = some ("", .placeholder) ∧
      (g.upsert e).1.parentOf e.parent = some rootPid := by
  have ht : g.index[e.parent]? = none := by
    rwa [contains_eq_isSome, Option.isSome_eq_false_iff, Option.isNone_iff_eq_none] at hc
  have hqr : e.parent ≠ rootPid := fun h ↦ by rw [h, hw.arena.index_root] at ht; cases ht
  have hg := hw.grown_touch hp e.name .observed
  have hi := inserted_upsertWith noLookup_pid (chaseLimit - 1)
    (g.touch e.pid e.name .observed).1 #[.placeholder e.parent] ⟨e.parent, rootPid, ""⟩ .placeholder
    hg.consistent
  have hpar := parentOf_upsertWith_placeholder noLookup_pid
    hg.consistent hqr (chaseLimit - 1) #[.placeholder e.parent] .placeholder
  obtain ⟨n, hn, -, hname, horigin⟩ := upsertWith_self noLookup_pid
    (chaseLimit - 1) (g.touch e.pid e.name .observed).1 #[.placeholder e.parent] ⟨e.parent, rootPid, ""⟩
    .placeholder hg.consistent hqr
  rw [upsert_of_untracked hp ht]
  generalize upsertWith (fun _ ↦ none) (chaseLimit - 1) ((g.touch e.pid e.name .observed).1,
    #[.placeholder e.parent]) ⟨e.parent, rootPid, ""⟩ .placeholder = U at hi hpar hn ⊢
  have hu := unlinked_attach (g := U.1.1) (h := (g.touch e.pid e.name .observed).2) (t := U.2) (x := U.2)
  rw [hn, Option.map_some] at hu
  obtain ⟨n', hn', -, hname', horigin', -⟩ := exists_of_unlinked hu
  constructor
  · simp only [find?, sameNodes_attach.index_eq, hi.index_self, Option.bind_some, hn', Option.map_some,
      hname', horigin', hname, horigin]
  · rw [parentOf_attach hi.consistent (hi.index_mono hg.index_self), if_neg (Entry.parent_ne_pid hp)]
    exact hpar

theorem Consistent.contains_upsert (hp : e.pid ≠ rootPid) (q : Pid) :
    (g.upsert e).1.contains q = true ↔ g.contains q = true ∨ q = e.pid ∨ q = e.parent := by
  have hi := inserted_upsert (e := e) hw
  constructor
  · intro hq
    rw [contains_eq_isSome, upsert_eq] at hq
    rcases tracked_upsertWith (S := fun q ↦ q = rootPid ∨ q = e.pid ∨ q = e.parent) (Or.inl rfl)
        (by intro _ _ h; cases h) chaseLimit g #[] e .observed (Or.inr (Or.inl rfl))
        (fun _ ↦ Or.inr (Or.inr rfl)) q hq with hq | rfl | hq
    · exact Or.inl (by rwa [contains_eq_isSome])
    · exact Or.inl (contains_of_index hw.arena.index_root)
    · exact Or.inr hq
  · rintro (hq | rfl | rfl)
    · obtain ⟨x, hx⟩ := exists_index_of_contains hq
      exact contains_of_index (hi.index_mono hx)
    · exact contains_of_index hi.index_self
    · cases ht : g.index[e.parent]? with
      | some x => exact contains_of_index (hi.index_mono ht)
      | none =>
        obtain ⟨n, hn, -⟩ := Option.map_eq_some_iff.mp (hw.upsert_placeholder hp (contains_eq_false ht)).1
        obtain ⟨x, hx, -⟩ := Option.bind_eq_some_iff.mp hn
        exact contains_of_index hx

theorem Consistent.handleOf_upsert :
    (g.upsert e).1.handleOf e.pid = some (g.upsert e).2 ∧
      ∀ x, g.handleOf e.pid = some x → (g.upsert e).2 = x :=
  have hi := inserted_upsert (e := e) hw
  ⟨hi.index_self, fun _ hx ↦ Option.some.inj (hi.index_self.symm.trans (hi.index_mono hx))⟩

theorem Consistent.childrenOf_upsert_subtree (hp : e.pid ≠ rootPid) (hq : ReflTransGen g.ChildEdge e.pid q) :
    (g.upsert e).1.childrenOf q = g.childrenOf q := by
  obtain ⟨G, t, hup, hP⟩ := hw.prepared_upsert hp
  rw [hup]
  exact hP.childrenOf_subtree hw hp hq

theorem Consistent.descendants_upsert (hp : e.pid ≠ rootPid) :
    (g.upsert e).1.descendants e.pid = g.descendants e.pid := by
  refine Consistent.descendants_eq_of hw (inserted_upsert hw).consistent
    (fun _ hr ↦ hw.childrenOf_upsert_subtree hp hr) fun q hq ↦ ?_
  obtain ⟨x, y, hx, hy, hyx⟩ := hw.transGen_childEdge_iff.mp hq
  have hne : q ≠ e.pid := by
    rintro rfl
    rw [hx] at hy
    cases hy
    exact hw.forest.acyclic _ hyx
  exact (name_origin_of_unlinked (hw.unlinked_upsert hne (contains_of_index hy))).1

theorem Consistent.upsert_root (hp : e.pid = rootPid) :
    g.handleOf rootPid = some (g.upsert e).2 ∧ (g.upsert e).1.index = g.index ∧
      ∀ q, (g.upsert e).1.nameOf q = g.nameOf q ∧ (g.upsert e).1.parentOf q = g.parentOf q ∧
        (g.upsert e).1.childrenOf q = g.childrenOf q := by
  have hr := (Restamped.refl hw).stamp g.root g.epoch
  rw [upsert_eq, upsertWith_root hp]
  exact ⟨hw.arena.index_root, rfl, fun _ ↦ ⟨nameOf_congr rfl fun _ ↦ name_update (by intro; rfl),
    hr.parentOf, childrenOf_congr rfl (fun _ ↦ children_update_of_children (by intro; rfl)) hr.nodes.pid_eq⟩⟩

end Exact

open scoped Classical in
/-- What one insertion does, exactly. An entry for the root only restamps it. For any other pid
`p`, with `e.parent` its declared parent (the root when the entry names `p` itself): `p` is named
as the entry says and marked observed; an untracked parent gets an unnamed placeholder below the
root; `p` hangs below its parent, or below the root when the parent lies below `p`; the subtree of
`p` keeps its children lists, names and shape; every other tracked pid keeps its name, origin and
parent; exactly `p` and its parent join the tracked pids, so the graph grows by the nodes created;
and the handle returned is `p`'s, the one it had if it was tracked. -/
theorem Consistent.upsert_exact (hw : g.Consistent) (e : Entry) :
    (e.pid = rootPid → g.handleOf rootPid = some (g.upsert e).2 ∧ (g.upsert e).1.index = g.index ∧
      ∀ q, (g.upsert e).1.nameOf q = g.nameOf q ∧ (g.upsert e).1.parentOf q = g.parentOf q ∧
        (g.upsert e).1.childrenOf q = g.childrenOf q) ∧
    (e.pid ≠ rootPid →
      (g.upsert e).1.nameOf e.pid = e.name ∧
      ((g.upsert e).1.find? e.pid).map (·.origin) = some .observed ∧
      (g.contains e.parent = false →
        ((g.upsert e).1.find? e.parent).map (fun n ↦ (n.name, n.origin)) = some ("", .placeholder) ∧
        (g.upsert e).1.parentOf e.parent = some rootPid) ∧
      (g.upsert e).1.parentOf e.pid =
        some (if TransGen g.ChildEdge e.pid e.parent then rootPid else e.parent) ∧
      (∀ q, ReflTransGen g.ChildEdge e.pid q → (g.upsert e).1.childrenOf q = g.childrenOf q) ∧
      (g.upsert e).1.descendants e.pid = g.descendants e.pid ∧
      (∀ q, q ≠ e.pid → g.contains q = true →
        (g.upsert e).1.nameOf q = g.nameOf q ∧
        ((g.upsert e).1.find? q).map (·.origin) = (g.find? q).map (·.origin) ∧
        (g.upsert e).1.parentOf q = g.parentOf q) ∧
      (∀ q, (g.upsert e).1.contains q = true ↔ g.contains q = true ∨ q = e.pid ∨ q = e.parent) ∧
      (g.upsert e).1.size =
        g.size + (if g.contains e.pid then 0 else 1) + (if g.contains e.parent then 0 else 1) ∧
      (g.upsert e).1.handleOf e.pid = some (g.upsert e).2 ∧
      ∀ x, g.handleOf e.pid = some x → (g.upsert e).2 = x) := by
  refine ⟨hw.upsert_root, fun hp ↦ ?_⟩
  obtain ⟨n, hn, hname, horigin⟩ := hw.find?_upsert_self hp
  obtain ⟨G, t, hup, hP⟩ := hw.prepared_upsert hp
  have hc := hw.contains_upsert hp
  refine ⟨by simp only [nameOf, hn, hname], by rw [hn, Option.map_some, horigin], hw.upsert_placeholder hp,
    by rw [hup]; exact hP.parentOf_self, fun _ ↦ hw.childrenOf_upsert_subtree hp, hw.descendants_upsert hp,
    fun q hq hcq ↦ ?_, hc, size_of_contains_iff (Entry.parent_ne_pid hp).symm hc, hw.handleOf_upsert⟩
  obtain ⟨x, hx⟩ := exists_index_of_contains hcq
  obtain ⟨hname', horigin'⟩ := name_origin_of_unlinked (hw.unlinked_upsert hq hcq)
  exact ⟨hname', horigin', (inserted_upsert hw).parentOf_frame hw hq hx⟩

open scoped Classical in
theorem upsert_exact_guarded :
    let g := run [.upsert ⟨2, 1, "b"⟩]
    let e : Entry := ⟨1, 2, "a"⟩
    g.Consistent ∧
    (e.pid = rootPid → g.handleOf rootPid = some (g.upsert e).2 ∧ (g.upsert e).1.index = g.index ∧
      ∀ q, (g.upsert e).1.nameOf q = g.nameOf q ∧ (g.upsert e).1.parentOf q = g.parentOf q ∧
        (g.upsert e).1.childrenOf q = g.childrenOf q) ∧
    (e.pid ≠ rootPid →
      (g.upsert e).1.nameOf e.pid = e.name ∧
      ((g.upsert e).1.find? e.pid).map (·.origin) = some .observed ∧
      (g.contains e.parent = false →
        ((g.upsert e).1.find? e.parent).map (fun n ↦ (n.name, n.origin)) = some ("", .placeholder) ∧
        (g.upsert e).1.parentOf e.parent = some rootPid) ∧
      (g.upsert e).1.parentOf e.pid =
        some (if TransGen g.ChildEdge e.pid e.parent then rootPid else e.parent) ∧
      (∀ q, ReflTransGen g.ChildEdge e.pid q → (g.upsert e).1.childrenOf q = g.childrenOf q) ∧
      (g.upsert e).1.descendants e.pid = g.descendants e.pid ∧
      (∀ q, q ≠ e.pid → g.contains q = true →
        (g.upsert e).1.nameOf q = g.nameOf q ∧
        ((g.upsert e).1.find? q).map (·.origin) = (g.find? q).map (·.origin) ∧
        (g.upsert e).1.parentOf q = g.parentOf q) ∧
      (∀ q, (g.upsert e).1.contains q = true ↔ g.contains q = true ∨ q = e.pid ∨ q = e.parent) ∧
      (g.upsert e).1.size =
        g.size + (if g.contains e.pid then 0 else 1) + (if g.contains e.parent then 0 else 1) ∧
      (g.upsert e).1.handleOf e.pid = some (g.upsert e).2 ∧
      ∀ x, g.handleOf e.pid = some x → (g.upsert e).2 = x) :=
  ⟨(reachable_run _).consistent, (reachable_run _).consistent.upsert_exact _⟩

end Graph

end KeystrokeTally.Proc
