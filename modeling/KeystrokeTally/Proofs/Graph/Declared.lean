import KeystrokeTally.Proofs.Graph.Roots

namespace KeystrokeTally.Proc.Graph

open Relation

variable {g g' : Graph} {p q a b : Pid} {h x y t : Handle} {n : Node}

theorem parentOf_eq : g.parentOf q = (g.index[q]?).bind fun x ↦ (g.up x).bind g.pidOf := by
  unfold parentOf find? up
  cases g.index[q]? with
  | none => rfl
  | some x =>
    simp only [Option.bind_some]
    cases g.get? x <;> rfl

theorem Consistent.pidOf_iff (hw : g.Consistent) : g.pidOf x = some q ↔ g.index[q]? = some x := by
  constructor
  · intro hx
    obtain ⟨m, hm, rfl⟩ := Option.map_eq_some_iff.mp hx
    exact hw.arena.get_index hm
  · intro hq
    obtain ⟨m, hm, rfl⟩ := hw.arena.index_get hq
    simp [pidOf, hm]

theorem index_of_parentOf (hq : g.parentOf q = some b) : (g.index[q]?).isSome := by
  rw [parentOf_eq] at hq
  obtain ⟨x, hx, -⟩ := Option.bind_eq_some_iff.mp hq
  simp [hx]

theorem Consistent.index_of_parentOf_eq (hw : g.Consistent) (hq : g.parentOf q = some b) :
    (g.index[b]?).isSome := by
  rw [parentOf_eq] at hq
  obtain ⟨x, -, hxb⟩ := Option.bind_eq_some_iff.mp hq
  obtain ⟨y, -, hyb⟩ := Option.bind_eq_some_iff.mp hxb
  simp [(hw.pidOf_iff).mp hyb]

theorem Consistent.parentOf_root (hw : g.Consistent) : g.parentOf rootPid = none := by
  rw [parentOf_eq, hw.arena.index_root, Option.bind_some, hw.forest.root_up, Option.bind_none]

theorem parentOf_of_index (hx : g.index[q]? = some x) :
    g.parentOf q = (g.up x).bind g.pidOf := by
  rw [parentOf_eq, hx, Option.bind_some]

theorem Inserted.parentOf_frame (hi : Inserted g g' p h) (hw : g.Consistent) (hq : q ≠ p)
    (hx : g.index[q]? = some x) : g'.parentOf q = g.parentOf q := by
  have hx' := hi.index_mono hx
  have hxh : x ≠ h := by
    rintro rfl
    exact hq (hi.consistent.arena.pid_eq_of_index hx' hi.index_self)
  obtain ⟨m, hm, -⟩ := hw.arena.index_get hx
  rw [parentOf_of_index hx', parentOf_of_index hx, hi.up_frame (by simp [hm]) hxh]
  cases hup : g.up x with
  | none => rfl
  | some y =>
    obtain ⟨my, hmy⟩ := Option.isSome_iff_exists.mp (hw.forest.parent_live hup)
    have hy : g.pidOf y = some my.pid := by simp [pidOf, hmy]
    rw [Option.bind_some, Option.bind_some, hy, hi.consistent.pidOf_iff]
    exact hi.index_mono ((hw.pidOf_iff).mp hy)

def LinksWithin (R : Pid → Pid → Prop) (g : Graph) : Prop :=
  ∀ a b, g.parentOf a = some b → R a b ∨ b = rootPid

section Guard

variable {R : Pid → Pid → Prop}

theorem LinksWithin.chain (hR : LinksWithin R g) (hw : g.Consistent) {u v : Handle}
    (huv : ReflTransGen g.Link u v) (hv : v ≠ g.root) {a b : Pid} (ha : g.pidOf u = some a)
    (hb : g.pidOf v = some b) : ReflTransGen R a b := by
  induction huv using ReflTransGen.head_induction_on generalizing a with
  | refl =>
    rw [ha] at hb
    cases hb
    exact ReflTransGen.refl
  | head hxy hyv ih =>
    rename_i w z
    obtain ⟨mz, hmz⟩ := Option.isSome_iff_exists.mp (hw.forest.parent_live hxy)
    have hz : g.pidOf z = some mz.pid := by simp [pidOf, hmz]
    have hlink : g.parentOf a = some mz.pid := by
      rw [parentOf_of_index ((hw.pidOf_iff).mp ha), hxy, Option.bind_some, hz]
    rcases hR a mz.pid hlink with hr | hroot
    · exact ReflTransGen.head hr (ih hz)
    · have hzr : z = g.root := by
        rw [hroot, hw.pidOf_iff, hw.arena.index_root] at hz
        exact (Option.some.inj hz).symm
      subst hzr
      rcases hyv.cases_head with rfl | ⟨_, hr, -⟩
      · exact absurd rfl hv
      · rw [Link, hw.forest.root_up] at hr
        cases hr

theorem LinksWithin.not_isAncestor (hR : LinksWithin R g) (hw : g.Consistent)
    (hacyc : ∀ a, ¬ TransGen R a a) (hh : g.pidOf h = some a) (ha : a ≠ rootPid)
    (ht : g.pidOf t = some b) (hab : R a b ∨ b = rootPid) : g.isAncestor h t = false := by
  rw [Bool.eq_false_iff]
  intro hanc
  rw [isAncestor_iff hw.forest.acyclic] at hanc
  have hhr : h ≠ g.root := by
    rintro rfl
    obtain ⟨m, hm, hmp⟩ := hw.arena.root_get
    simp [pidOf, hm, hmp] at hh
    exact ha hh.symm
  have hba := hR.chain hw hanc hhr ht hh
  rcases hab with hr | hroot
  · exact hacyc a (TransGen.head' hr hba)
  · have htr : t = g.root := by
      rw [hroot, hw.pidOf_iff, hw.arena.index_root] at ht
      exact (Option.some.inj ht).symm
    subst htr
    rcases hanc.cases_head with hth | ⟨_, hr, -⟩
    · exact hhr hth.symm
    · rw [Link, hw.forest.root_up] at hr
      cases hr

end Guard

theorem Restamped.parentOf (hr : Restamped g g') : g'.parentOf q = g.parentOf q := by
  have hpid : ∀ y, g'.pidOf y = g.pidOf y := hr.nodes.pid_eq
  simp only [parentOf_eq, hr.nodes.index_eq, hr.up_eq, hpid]

theorem Consistent.parentOf_ne_none (hw : g.Consistent) (hx : g.index[q]? = some x)
    (hup : g.up x ≠ none) : g.parentOf q ≠ none := by
  obtain ⟨y, hy⟩ := Option.ne_none_iff_exists'.mp hup
  obtain ⟨my, hmy⟩ := Option.isSome_iff_exists.mp (hw.forest.parent_live hy)
  rw [parentOf_of_index hx, hy, Option.bind_some]
  simp [pidOf, hmy]

theorem Inserted.parentOf_ne_none (hi : Inserted g g' p h) (hw : g.Consistent)
    (hq : (g'.index[q]?).isSome) (hnew : (g.index[q]?).isSome = false ∨ q = p) (hr : q ≠ rootPid) :
    g'.parentOf q ≠ none := by
  obtain ⟨x, hx⟩ := Option.isSome_iff_exists.mp hq
  refine hi.consistent.parentOf_ne_none hx ?_
  by_cases hqp : q = p
  · subst hqp
    rw [Option.some.inj (hx.symm.trans hi.index_self)]
    exact hi.up_self hr
  · have hxh : x ≠ h := by
      rintro rfl
      exact hqp (hi.consistent.arena.pid_eq_of_index hx hi.index_self)
    obtain ⟨m, hm, -⟩ := hi.consistent.arena.index_get hx
    have hnone : g.index[q]? = none :=
      Option.isNone_iff_eq_none.mp (Option.isSome_eq_false_iff.mp (hnew.resolve_right hqp))
    exact hi.up_new (by simp [hm]) (hi.new_of_index hw hnone hx) hxh

theorem Grown.parentOf_of_up_eq (hg : Grown g g' p h) (hw : g.Consistent)
    (hup : ∀ x, g'.up x = g.up x) (hab : g'.parentOf a = some b) : g.parentOf a = some b := by
  rw [parentOf_eq] at hab
  obtain ⟨x, hx, hxb⟩ := Option.bind_eq_some_iff.mp hab
  obtain ⟨y, hy, hyb⟩ := Option.bind_eq_some_iff.mp hxb
  rw [hup] at hy
  cases hi : g.index[a]? with
  | none =>
    have hnew : g.get? x = none := by simpa using hg.new_of_index hw hi hx
    simp [up, hnew] at hy
  | some x' =>
    obtain rfl : x' = x := Option.some.inj ((hg.index_mono hi).symm.trans hx)
    obtain ⟨my, hmy⟩ := Option.isSome_iff_exists.mp (hw.forest.parent_live hy)
    have hpy : g.pidOf y = some my.pid := by simp [pidOf, hmy]
    have hpy' := (hg.consistent.pidOf_iff).mpr (hg.index_mono ((hw.pidOf_iff).mp hpy))
    rw [hyb] at hpy'
    cases hpy'
    rw [parentOf_of_index hi, hy, Option.bind_some, hpy]

theorem up_touch (hw : g.Consistent) {name : String} {origin : Origin} :
    (g.touch p name origin).1.up x = g.up x := by
  cases hi : g.index[p]? with
  | some h₀ =>
    rw [touch_of_some hi]
    exact up_update_of_parent (by intro; rfl)
  | none =>
    rw [touch_of_none hi]
    exact up_insertNew hw.arena.free_empty rfl

theorem parentOf_attach (hw : g.Consistent) (hp : g.index[p]? = some h) :
    (g.attach h t).parentOf a =
      if a = p then g.pidOf (if g.isAncestor h t then g.root else t) else g.parentOf a := by
  have hs := sameNodes_attach (g := g) (h := h) (p := t)
  have hpid : ∀ y, (g.attach h t).pidOf y = g.pidOf y := hs.pid_eq
  obtain ⟨m, hm, -⟩ := hw.arena.index_get hp
  have hh : (g.get? h).isSome := by simp [hm]
  rw [parentOf_eq, parentOf_eq, hs.index_eq]
  split
  · subst a
    simp only [hp, Option.bind_some, up_attach hh, if_true, hpid]
  · cases ha : g.index[a]? with
    | none => rfl
    | some x =>
      have hxh : x ≠ h := by
        rintro rfl
        exact ‹¬a = p› (hw.arena.pid_eq_of_index ha hp)
      simp only [Option.bind_some, up_attach hh, if_neg hxh]
      cases g.up x with
      | none => rfl
      | some y => exact hpid y

section Insert

variable {R : Pid → Pid → Prop} {lookup : Pid → Option Entry} {e : Entry}

def Allowed (R : Pid → Pid → Prop) (e : Entry) : Prop :=
  e.pid ≠ rootPid → R e.pid e.parent ∨ e.parent = rootPid

theorem LinksWithin.attach_declared (hR : LinksWithin R g) (hw : g.Consistent)
    (hacyc : ∀ a, ¬ TransGen R a a) (he : Allowed R e) (hp : e.pid ≠ rootPid)
    (hh : g.index[e.pid]? = some h) (ht : g.index[e.parent]? = some t) :
    LinksWithin R (g.attach h t) ∧ (g.attach h t).parentOf e.pid = some e.parent := by
  have hanc := hR.not_isAncestor hw hacyc ((hw.pidOf_iff).mpr hh) hp ((hw.pidOf_iff).mpr ht) (he hp)
  have hlink : (g.attach h t).parentOf e.pid = some e.parent := by
    rw [parentOf_attach hw hh, if_pos rfl, hanc]
    exact (hw.pidOf_iff).mpr ht
  refine ⟨fun a b hab ↦ ?_, hlink⟩
  by_cases ha : a = e.pid
  · subst ha
    rw [hlink] at hab
    cases hab
    exact he hp
  · rw [parentOf_attach hw hh, if_neg ha] at hab
    exact hR a b hab

theorem LinksWithin.attach_root (hR : LinksWithin R g) (hw : g.Consistent)
    (hh : g.index[p]? = some h) : LinksWithin R (g.attach h g.root) := by
  intro a b hab
  rw [parentOf_attach hw hh] at hab
  split at hab
  · have hroot : g.pidOf g.root = some rootPid := (hw.pidOf_iff).mpr hw.arena.index_root
    rw [ite_self, hroot] at hab
    cases hab
    exact Or.inr rfl
  · exact hR a b hab

theorem parent_placeholder (q : Pid) : (⟨q, rootPid, ""⟩ : Entry).parent = rootPid := by
  unfold Entry.parent
  split <;> rfl

theorem allowed_placeholder (q : Pid) : Allowed R ⟨q, rootPid, ""⟩ :=
  fun _ ↦ Or.inr (parent_placeholder q)

theorem linksWithin_upsertWith (hacyc : ∀ a, ¬ TransGen R a a)
    (hlookup : ∀ q pe, lookup q = some pe → pe.pid = q ∧ Allowed R pe) :
    ∀ (fuel : Nat) (g : Graph) (notes : Array Note) (e : Entry) (origin : Origin), g.Consistent →
      LinksWithin R g → Allowed R e →
      LinksWithin R (upsertWith lookup fuel (g, notes) e origin).1.1 ∧
        (e.pid ≠ rootPid → 0 < fuel →
          (upsertWith lookup fuel (g, notes) e origin).1.1.parentOf e.pid = some e.parent)
  | fuel, g, notes, e, origin, hw, hR, he => by
    by_cases hp : e.pid = rootPid
    · rw [upsertWith_root hp]
      have hr := (Restamped.refl hw).stamp g.root g.epoch
      exact ⟨fun a b hab ↦ hR a b (by rwa [hr.parentOf] at hab), fun h ↦ absurd hp h⟩
    rw [upsertWith.eq_1]
    simp only [beq_iff_eq, hp, if_false]
    have hg := hw.grown_touch hp e.name origin
    have hR₁ : LinksWithin R (g.touch e.pid e.name origin).1 :=
      fun a b hab ↦ hR a b (hg.parentOf_of_up_eq hw (fun _ ↦ up_touch hw) hab)
    rcases ht : g.touch e.pid e.name origin with ⟨g₁, h₁⟩
    rw [ht] at hg hR₁
    cases fuel with
    | zero => exact ⟨hR₁.attach_root hg.consistent hg.index_self, fun _ h ↦ absurd h (Nat.lt_irrefl 0)⟩
    | succ k =>
      dsimp only
      cases hq : g₁.index[e.parent]? with
      | some ph =>
        obtain ⟨hR', hlink⟩ := hR₁.attach_declared hg.consistent hacyc he hp hg.index_self hq
        exact ⟨hR', fun _ _ ↦ hlink⟩
      | none =>
        cases hl : lookup e.parent with
        | some pe =>
          obtain ⟨hpe, hpa⟩ := hlookup _ _ hl
          have h₂ := inserted_upsertWith (fun q pe h ↦ (hlookup q pe h).1) k g₁ notes pe .observed
            hg.consistent
          have hR₂ := (linksWithin_upsertWith hacyc hlookup k g₁ notes pe .observed hg.consistent
            hR₁ hpa).1
          rw [hpe] at h₂
          obtain ⟨hR', hlink⟩ := hR₂.attach_declared h₂.consistent hacyc he hp
            (h₂.index_mono hg.index_self) h₂.index_self
          exact ⟨hR', fun _ _ ↦ hlink⟩
        | none =>
          have h₂ := inserted_upsertWith (fun q pe h ↦ (hlookup q pe h).1) k g₁
            (notes.push (.placeholder e.parent)) ⟨e.parent, rootPid, ""⟩ .placeholder hg.consistent
          have hR₂ := (linksWithin_upsertWith hacyc hlookup k g₁ (notes.push (.placeholder e.parent))
            ⟨e.parent, rootPid, ""⟩ .placeholder hg.consistent hR₁ (allowed_placeholder e.parent)).1
          obtain ⟨hR', hlink⟩ := hR₂.attach_declared h₂.consistent hacyc he hp
            (h₂.index_mono hg.index_self) h₂.index_self
          exact ⟨hR', fun _ _ ↦ hlink⟩

theorem isSome_index_touch {name : String} {origin : Origin} :
    ((g.touch p name origin).1.index[q]?).isSome ↔ (g.index[q]?).isSome ∨ q = p := by
  cases hi : g.index[p]? with
  | some h₀ =>
    rw [touch_of_some hi, (sameNodes_update (by intro; rfl)).index_eq]
    constructor
    · exact Or.inl
    · rintro (hq | rfl)
      · exact hq
      · simp [hi]
  | none =>
    rw [touch_of_none hi]
    show ((g.index.insert p _)[q]?).isSome ↔ _
    rw [getElem?_insert_pid]
    by_cases hpq : p = q
    · subst hpq
      simp
    · rw [if_neg hpq]
      constructor
      · exact Or.inl
      · rintro (hq | rfl)
        · exact hq
        · exact absurd rfl hpq

theorem tracked_upsertWith {S : Pid → Prop} (hroot : S rootPid)
    (hS : ∀ q pe, lookup q = some pe → S pe.pid ∧ (pe.pid ≠ rootPid → S pe.parent)) :
    ∀ (fuel : Nat) (g : Graph) (notes : Array Note) (e : Entry) (origin : Origin),
      S e.pid → (e.pid ≠ rootPid → S e.parent) →
      ∀ q, ((upsertWith lookup fuel (g, notes) e origin).1.1.index[q]?).isSome →
        (g.index[q]?).isSome ∨ S q
  | fuel, g, notes, e, origin, hpid, hpar => by
    by_cases hp : e.pid = rootPid
    · rw [upsertWith_root hp, (sameNodes_update (by intro; rfl)).index_eq]
      exact fun _ ↦ Or.inl
    rw [upsertWith.eq_1]
    simp only [beq_iff_eq, hp, if_false]
    have h₁ : ∀ q, ((g.touch e.pid e.name origin).1.index[q]?).isSome → (g.index[q]?).isSome ∨ S q :=
      fun q hq ↦ (isSome_index_touch.mp hq).imp id fun (he : q = e.pid) ↦ he ▸ hpid
    rcases ht : g.touch e.pid e.name origin with ⟨g₁, h₁'⟩
    rw [ht] at h₁
    have hattach : ∀ (G : Graph) (t : Handle), (∀ q, (G.index[q]?).isSome → (g.index[q]?).isSome ∨ S q) →
        ∀ q, ((G.attach h₁' t).index[q]?).isSome → (g.index[q]?).isSome ∨ S q := by
      intro G t hG q hq
      rw [sameNodes_attach.index_eq] at hq
      exact hG q hq
    have hchase : ∀ (G : Graph), (∀ q, (G.index[q]?).isSome → (g₁.index[q]?).isSome ∨ S q) →
        ∀ q, (G.index[q]?).isSome → (g.index[q]?).isSome ∨ S q := by
      intro G hG q hq
      rcases hG q hq with hq₁ | hs
      · exact h₁ q hq₁
      · exact Or.inr hs
    cases fuel with
    | zero => exact hattach g₁ g₁.root h₁
    | succ k =>
      dsimp only
      cases hq : g₁.index[e.parent]? with
      | some ph => exact hattach g₁ ph h₁
      | none =>
        cases hl : lookup e.parent with
        | some pe =>
          obtain ⟨hpe, hpe'⟩ := hS _ _ hl
          exact hattach _ _ (hchase _ (tracked_upsertWith hroot hS k g₁ notes pe .observed hpe hpe'))
        | none =>
          exact hattach _ _ (hchase _ (tracked_upsertWith hroot hS k g₁ _ _ .placeholder
            (hpar hp) fun _ ↦ (parent_placeholder e.parent).symm ▸ hroot))

end Insert

section Pass

variable {es done : List Entry} {e : Entry} {G : Graph}

def Declares (es : List Entry) (a b : Pid) : Prop :=
  ∃ e ∈ es, e.pid = a ∧ a ≠ rootPid ∧ e.parent = b

/-- The pids a pass over `es` may give a node: the root's, the batch's own, and the parents its
entries declare. -/
def Named (es : List Entry) (q : Pid) : Prop :=
  q = rootPid ∨ (∃ e ∈ es, e.pid = q) ∨ ∃ a, Declares es a q

def PassLinks (g : Graph) (es : List Entry) (a b : Pid) : Prop :=
  Declares es a b ∨ g.parentOf a = some b

/-- What holds part-way through a refresh pass over `es` that started from `g`, once the entries
of `done` have had their turn. -/
structure Passing (g : Graph) (es done : List Entry) (G : Graph) : Prop where
  consistent : G.Consistent
  links : LinksWithin (PassLinks g es) G
  index_mono : ∀ {q : Pid} {x : Handle}, g.index[q]? = some x → G.index[q]? = some x
  declared : ∀ e ∈ done, e.pid ≠ rootPid → G.parentOf e.pid = some e.parent
  frame : ∀ q, (g.index[q]?).isSome → (∀ e ∈ done, e.pid ≠ q) → G.parentOf q = g.parentOf q
  named : ∀ q, (G.index[q]?).isSome → (g.index[q]?).isSome ∨ Named es q
  linked : ∀ q, (G.index[q]?).isSome → (g.index[q]?).isSome = false → q ≠ rootPid →
    G.parentOf q ≠ none

theorem Passing.start (hw : g.Consistent) : Passing g es [] { g with epoch := g.epoch + 1 } := by
  have hopen := Restamped.setEpoch hw (g.epoch + 1)
  constructor
  · exact hopen.consistent
  · intro a b hab
    rw [hopen.parentOf] at hab
    exact Or.inl (Or.inr hab)
  · exact fun hq ↦ hq
  · exact fun _ he ↦ absurd he List.not_mem_nil
  · exact fun _ _ _ ↦ hopen.parentOf
  · exact fun _ hq ↦ Or.inl hq
  · intro q hq hnew
    rw [hnew] at hq
    cases hq

theorem Passing.step (hP : Passing g es done G) (hacyc : ∀ a, ¬ TransGen (PassLinks g es) a a)
    (he : e ∈ es) (hfresh : ∀ e' ∈ done, e'.pid ≠ e.pid) (notes : Array Note) :
    Passing g es (done ++ [e])
      (upsertWith (fun q ↦ (batchIndex es)[q]?) chaseLimit (G, notes) e .observed).1.1 := by
  have hlookup : ∀ q pe, (batchIndex es)[q]? = some pe → pe.pid = q ∧ pe ∈ es :=
    fun _ _ h ↦ batchIndex_spec h
  have hallowed : ∀ pe ∈ es, Allowed (PassLinks g es) pe :=
    fun pe hpe hp ↦ Or.inl (Or.inl ⟨pe, hpe, rfl, hp, rfl⟩)
  have hi := inserted_upsertWith (fun q pe h ↦ (hlookup q pe h).1) chaseLimit G notes e .observed
    hP.consistent
  obtain ⟨hlinks, hself⟩ := linksWithin_upsertWith hacyc
    (fun q pe h ↦ ⟨(hlookup q pe h).1, hallowed pe (hlookup q pe h).2⟩) chaseLimit G notes e
    .observed hP.consistent hP.links (hallowed e he)
  have hnamed := tracked_upsertWith (S := Named es) (Or.inl rfl)
    (fun q pe h ↦ ⟨Or.inr (Or.inl ⟨pe, (hlookup q pe h).2, rfl⟩),
      fun hp ↦ Or.inr (Or.inr ⟨pe.pid, pe, (hlookup q pe h).2, rfl, hp, rfl⟩)⟩)
    chaseLimit G notes e .observed (Or.inr (Or.inl ⟨e, he, rfl⟩))
    (fun hp ↦ Or.inr (Or.inr ⟨e.pid, e, he, rfl, hp, rfl⟩))
  constructor
  · exact hi.consistent
  · exact hlinks
  · exact fun hq ↦ hi.index_mono (hP.index_mono hq)
  · intro e' he' hp
    rcases List.mem_append.mp he' with he' | he'
    · obtain ⟨x, hx⟩ := Option.isSome_iff_exists.mp (index_of_parentOf (hP.declared e' he' hp))
      rw [hi.parentOf_frame hP.consistent (hfresh e' he') hx]
      exact hP.declared e' he' hp
    · obtain rfl := List.mem_singleton.mp he'
      exact hself hp (by decide)
  · intro q hq hdone
    obtain ⟨x, hx⟩ := Option.isSome_iff_exists.mp hq
    rw [hi.parentOf_frame hP.consistent (fun h ↦ hdone e (by simp) h.symm) (hP.index_mono hx)]
    exact hP.frame q hq fun e' he' ↦ hdone e' (List.mem_append_left _ he')
  · intro q hq
    rcases hnamed q hq with hq' | hn
    · exact hP.named q hq'
    · exact Or.inr hn
  · intro q hq hnew hr
    by_cases hqG : (G.index[q]?).isSome
    · by_cases hqe : q = e.pid
      · exact hi.parentOf_ne_none hP.consistent hq (Or.inr hqe) hr
      · obtain ⟨x, hx⟩ := Option.isSome_iff_exists.mp hqG
        rw [hi.parentOf_frame hP.consistent hqe hx]
        exact hP.linked q hqG hnew hr
    · exact hi.parentOf_ne_none hP.consistent hq (Or.inl (Bool.eq_false_iff.mpr hqG)) hr

theorem Passing.foldl (hacyc : ∀ a, ¬ TransGen (PassLinks g es) a a) :
    ∀ (ds done : List Entry) (acc : Graph × Array Note), Passing g es done acc.1 →
      (∀ e ∈ ds, e ∈ es) → ((done ++ ds).map (·.pid)).Nodup →
      Passing g es (done ++ ds)
        (ds.foldl (fun acc e ↦ (upsertWith (fun q ↦ (batchIndex es)[q]?) chaseLimit acc e .observed).1)
          acc).1
  | [], done, acc, hP, _, _ => by
    rw [List.append_nil]
    exact hP
  | e :: ds, done, ⟨G, notes⟩, hP, hds, hnodup => by
    have hfresh : ∀ e' ∈ done, e'.pid ≠ e.pid := by
      intro e' he' heq
      rw [List.map_append, List.nodup_append] at hnodup
      exact hnodup.2.2 _ (List.mem_map_of_mem he') _ (List.mem_map_of_mem List.mem_cons_self) heq
    have hP' := hP.step hacyc (hds e List.mem_cons_self) hfresh notes
    have hrest := Passing.foldl hacyc ds (done ++ [e]) _ hP'
      (fun e' he' ↦ hds e' (List.mem_cons_of_mem _ he')) (by simpa using hnodup)
    rw [List.append_assoc, List.singleton_append] at hrest
    exact hrest

theorem parentOf_refresh (hw : g.Consistent) :
    (g.refresh es).1.parentOf q =
      (es.foldl (fun acc e ↦ (upsertWith (fun p ↦ (batchIndex es)[p]?) chaseLimit acc e .observed).1)
        ({ g with epoch := g.epoch + 1 }, #[])).1.parentOf q := by
  have hopen := Restamped.setEpoch hw (g.epoch + 1)
  have hfold := (upsertFold_spec (fun q pe (h : (batchIndex es)[q]? = some pe) ↦ batchIndex_pid h) es
    ({ g with epoch := g.epoch + 1 }, #[]) hopen.consistent).1
  rw [refresh_fst]
  exact (Restamped.stampAncestors hfold).parentOf

theorem Passing.parentOf_new (hP : Passing g es es G) (hw : g.Consistent)
    (hnew : (g.index[q]?).isSome = false) (hnot : ∀ e ∈ es, e.pid ≠ q) :
    G.parentOf q = some b ↔ b = rootPid ∧ ∃ a, Declares es a q := by
  have hqr : q ≠ rootPid := by
    rintro rfl
    rw [hw.arena.index_root] at hnew
    cases hnew
  have hto : ∀ {b}, G.parentOf q = some b → b = rootPid := by
    intro b hb
    rcases hP.links q b hb with (⟨e, he, hep, -⟩ | hold) | hroot
    · exact absurd hep (hnot e he)
    · rw [index_of_parentOf hold] at hnew
      cases hnew
    · exact hroot
  constructor
  · intro hb
    refine ⟨hto hb, ?_⟩
    rcases hP.named q (index_of_parentOf hb) with hold | hr | ⟨e, he, hep⟩ | hdecl
    · rw [hold] at hnew
      cases hnew
    · exact absurd hr hqr
    · exact absurd hep (hnot e he)
    · exact hdecl
  · rintro ⟨rfl, a, e, he, rfl, ha, rfl⟩
    have hq := hP.consistent.index_of_parentOf_eq (hP.declared e he ha)
    obtain ⟨b', hb'⟩ := Option.ne_none_iff_exists'.mp (hP.linked _ hq hnew hqr)
    rw [hb', hto hb']

theorem Consistent.refresh_parentOf (hw : g.Consistent) (hnodup : (es.map (·.pid)).Nodup)
    (hacyc : ∀ a, ¬ TransGen (PassLinks g es) a a) :
    (∀ e ∈ es, e.pid ≠ rootPid → (g.refresh es).1.parentOf e.pid = some e.parent) ∧
    (∀ q, (g.index[q]?).isSome → (∀ e ∈ es, e.pid ≠ q) →
      (g.refresh es).1.parentOf q = g.parentOf q) ∧
    (∀ q, (g.index[q]?).isSome = false → (∀ e ∈ es, e.pid ≠ q) → ∀ b,
      (g.refresh es).1.parentOf q = some b ↔ b = rootPid ∧ ∃ a, Declares es a q) := by
  have hP := Passing.foldl hacyc es [] ({ g with epoch := g.epoch + 1 }, #[]) (Passing.start hw)
    (fun _ he ↦ he) (by simpa using hnodup)
  rw [List.nil_append] at hP
  simp only [parentOf_refresh hw]
  exact ⟨hP.declared, hP.frame, fun q hnew hnot _ ↦ hP.parentOf_new hw hnew hnot⟩

theorem parentOf_empty : empty.parentOf q = none := by
  by_cases hq : q = rootPid
  · rw [hq, consistent_empty.parentOf_root]
  · rw [parentOf_eq, index_empty, if_neg hq, Option.bind_none]

theorem declares_perm {es' : List Entry} (hperm : es'.Perm es) : Declares es' = Declares es := by
  funext a b
  apply propext
  simp only [Declares, hperm.mem_iff]

theorem not_transGen_self_of_rank {R : Pid → Pid → Prop} (f : Pid → Nat)
    (hf : ∀ a b, R a b → f b < f a) (a : Pid) : ¬ TransGen R a a := by
  have hlt : ∀ {a b}, TransGen R a b → f b < f a := by
    intro a b hab
    induction hab with
    | single h => exact hf _ _ h
    | tail _ h ih => exact lt_trans (hf _ _ h) ih
  exact fun h ↦ lt_irrefl _ (hlt h)

end Pass

theorem refresh_parentOf_declared (g : Graph) (hg : Reachable g) (es : List Entry)
    (hnodup : (es.map (·.pid)).Nodup)
    (hacyc : ∀ a, ¬ TransGen (fun a b ↦ Declares es a b ∨ g.parentOf a = some b) a a) :
    (∀ e ∈ es, e.pid ≠ rootPid → (g.refresh es).1.parentOf e.pid = some e.parent) ∧
    ∀ es', es'.Perm es → ∀ q, (g.refresh es').1.parentOf q = (g.refresh es).1.parentOf q := by
  have hw := hg.consistent
  obtain ⟨hdecl, hframe, hnew⟩ := hw.refresh_parentOf hnodup hacyc
  refine ⟨hdecl, fun es' hperm q ↦ ?_⟩
  have hD := declares_perm hperm
  have hacyc' : ∀ a, ¬ TransGen (PassLinks g es') a a := by
    unfold PassLinks
    rw [hD]
    exact hacyc
  obtain ⟨hdecl', hframe', hnew'⟩ :=
    hw.refresh_parentOf ((hperm.map (·.pid)).nodup_iff.mpr hnodup) hacyc'
  by_cases hq : ∃ e ∈ es, e.pid = q
  · obtain ⟨e, he, rfl⟩ := hq
    by_cases hr : e.pid = rootPid
    · rw [hr, (refresh_spec hw).1.parentOf_root, (refresh_spec hw).1.parentOf_root]
    · rw [hdecl' e (hperm.mem_iff.mpr he) hr, hdecl e he hr]
  · have hnot : ∀ e ∈ es, e.pid ≠ q := fun e he hep ↦ hq ⟨e, he, hep⟩
    have hnot' : ∀ e ∈ es', e.pid ≠ q := fun e he ↦ hnot e (hperm.mem_iff.mp he)
    cases hi : (g.index[q]?).isSome with
    | true => rw [hframe' q hi hnot', hframe q hi hnot]
    | false => exact Option.ext fun b ↦ by rw [hnew' q hi hnot' b, hnew q hi hnot b, hD]

/-- The order of a batch matters when the graph links a pid of the batch the other way round:
below, `2` sits under `1` and the batch turns that around. Listed first, `1` meets its declared
parent while that is still its descendant and goes below the root; listed last, it finds `2`
already moved. -/
theorem refresh_order_matters :
    (([⟨1, 2, "a"⟩, ⟨2, 0, "b"⟩] : List Entry).map (·.pid)).Nodup ∧
    (∀ a, ¬ TransGen (Declares [⟨1, 2, "a"⟩, ⟨2, 0, "b"⟩]) a a) ∧
    ((run [.upsert ⟨1, 0, "a"⟩, .upsert ⟨2, 1, "b"⟩]).refresh [⟨1, 2, "a"⟩, ⟨2, 0, "b"⟩]).1.parentOf 1 =
      some rootPid ∧
    ((run [.upsert ⟨1, 0, "a"⟩, .upsert ⟨2, 1, "b"⟩]).refresh [⟨2, 0, "b"⟩, ⟨1, 2, "a"⟩]).1.parentOf 1 =
      some 2 := by
  have hw := (reachable_run [.upsert ⟨1, 0, "a"⟩, .upsert ⟨2, 1, "b"⟩]).consistent
  refine ⟨by decide, not_transGen_self_of_rank (fun a ↦ if a = 1 then 2 else if a = 2 then 1 else 0) ?_,
    by rw [parentOf_refresh hw]; decide, by rw [parentOf_refresh hw]; decide⟩
  rintro a b ⟨e, he, rfl, -, rfl⟩
  simp only [List.mem_cons, List.not_mem_nil, or_false] at he
  rcases he with rfl | rfl <;> decide

end KeystrokeTally.Proc.Graph
