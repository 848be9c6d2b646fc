import KeystrokeTally.Proofs.Graph.Seen

namespace KeystrokeTally.Proc.Graph

open Relation

variable {g g' g'' : Graph} {x y h t c : Handle} {n : Node} {p q : Pid}

def StampsBounded (g : Graph) : Prop := ∀ ⦃x n⦄, g.get? x = some n → n.seen ≤ g.epoch

/-- `g'` is in the pass of `g`, keeps the pid and stamp of every node of `g` it keeps, and stamps
in the pass only nodes whose pid satisfies `T`. -/
def StampsOnly (T : Pid → Prop) (g g' : Graph) : Prop :=
  g'.epoch = g.epoch ∧ ∀ ⦃x n'⦄, g'.get? x = some n' →
    (∃ n, g.get? x = some n ∧ n'.seen = n.seen ∧ n'.pid = n.pid) ∨ (n'.seen = g.epoch ∧ T n'.pid)

namespace StampsOnly

variable {T T' : Pid → Prop}

theorem refl : StampsOnly T g g := ⟨rfl, fun _ n hn ↦ Or.inl ⟨n, hn, rfl, rfl⟩⟩

theorem trans (h₁ : StampsOnly T g g') (h₂ : StampsOnly T g' g'') : StampsOnly T g g'' := by
  refine ⟨h₂.1.trans h₁.1, fun x n'' hn'' ↦ ?_⟩
  rcases h₂.2 hn'' with ⟨n', hn', hs, hp⟩ | ⟨hs, hT⟩
  · rcases h₁.2 hn' with ⟨n, hn, hs', hp'⟩ | ⟨hs', hT⟩
    · exact Or.inl ⟨n, hn, hs.trans hs', hp.trans hp'⟩
    · exact Or.inr ⟨hs.trans hs', hp ▸ hT⟩
  · exact Or.inr ⟨hs.trans h₁.1, hT⟩

theorem mono (hs : StampsOnly T g g') (hT : ∀ p, T p → T' p) : StampsOnly T' g g' :=
  ⟨hs.1, fun _ _ hn ↦ (hs.2 hn).imp id fun h ↦ ⟨h.1, hT _ h.2⟩⟩

theorem bounded (hs : StampsOnly T g g') (hb : StampsBounded g) : StampsBounded g' := by
  intro x n' hn'
  rw [hs.1]
  rcases hs.2 hn' with ⟨n, hn, hseen, -⟩ | ⟨hseen, -⟩
  · rw [hseen]
    exact hb hn
  · exact hseen.le

end StampsOnly

theorem stampsOnly_update {T : Pid → Prop} {f : Node → Node} (hpid : ∀ n, (f n).pid = n.pid)
    (hseen : ∀ n, g.get? h = some n → (f n).seen = n.seen ∨ ((f n).seen = g.epoch ∧ T n.pid)) :
    StampsOnly T g (g.update h f) := by
  refine ⟨update_epoch, fun x n' hn' ↦ ?_⟩
  obtain ⟨m, hm, rfl⟩ := get?_update_eq_some hn'
  split
  · rename_i hx
    subst hx
    rcases hseen m hm with hs | ⟨hs, hT⟩
    · exact Or.inl ⟨m, hm, hs, hpid m⟩
    · exact Or.inr ⟨hs, by rw [hpid]; exact hT⟩
  · exact Or.inl ⟨m, hm, rfl, rfl⟩

section Relink

variable {T : Pid → Prop}

theorem stampsOnly_unlink : StampsOnly T g (g.unlink c) := by
  unfold unlink
  split
  · exact .refl
  · rename_i n _
    have h₁ : StampsOnly T g (g.update c fun n ↦ { n with parent := none }) :=
      stampsOnly_update (fun _ ↦ rfl) fun _ _ ↦ Or.inl rfl
    cases n.parent with
    | none => exact h₁
    | some q => exact h₁.trans (stampsOnly_update (fun _ ↦ rfl) fun _ _ ↦ Or.inl rfl)

theorem stampsOnly_link : StampsOnly T g (g.link y c) :=
  (stampsOnly_update (fun _ ↦ by split <;> rfl) fun _ _ ↦ Or.inl (by split <;> rfl)).trans
    (stampsOnly_update (fun _ ↦ rfl) fun _ _ ↦ Or.inl rfl)

theorem stampsOnly_attach : StampsOnly T g (g.attach c y) := by
  rw [attach_eq]
  generalize (if g.isAncestor c y then g.root else y) = t
  split
  · exact .refl
  · exact stampsOnly_unlink.trans stampsOnly_link

end Relink

theorem Consistent.stampsOnly_touch {T : Pid → Prop} (hw : g.Consistent) (hT : T p) (name : String)
    (origin : Origin) : StampsOnly T g (g.touch p name origin).1 := by
  cases hi : g.index[p]? with
  | some h₀ =>
    rw [touch_of_some hi]
    obtain ⟨m, hm, hmp⟩ := hw.arena.index_get hi
    refine stampsOnly_update (fun _ ↦ rfl) fun n hn ↦ Or.inr ⟨rfl, ?_⟩
    rw [hm] at hn
    cases hn
    rwa [hmp]
  | none =>
    rw [touch_of_none hi]
    have hfree := hw.arena.free_empty
    refine ⟨alloc_epoch, fun x n' hn' ↦ ?_⟩
    rw [get?_insertNew hfree] at hn'
    split at hn'
    · cases hn'
      exact Or.inr ⟨rfl, hT⟩
    · exact Or.inl ⟨n', hn', rfl, rfl⟩

section Upsert

variable {lookup : Pid → Option Entry}

/-- The pids an insertion of `e` into `g` may stamp: the entry's own, those the lookup knows,
and those that neither `g` nor the lookup knows, which get placeholders. -/
def Touched (lookup : Pid → Option Entry) (g : Graph) (e : Entry) (p : Pid) : Prop :=
  p = e.pid ∨ (lookup p).isSome ∨ (g.index[p]? = none ∧ lookup p = none)

theorem stampsOnly_upsertWith (hlookup : ∀ q pe, lookup q = some pe → pe.pid = q) :
    ∀ (fuel : Nat) (g : Graph) (notes : Array Note) (e : Entry) (origin : Origin), g.Consistent →
      StampsOnly (Touched lookup g e) g (upsertWith lookup fuel (g, notes) e origin).1.1
  | fuel, g, notes, e, origin, hw => by
    by_cases hp : e.pid = rootPid
    · rw [upsertWith_root hp]
      refine stampsOnly_update (fun _ ↦ rfl) fun n hn ↦ Or.inr ⟨rfl, Or.inl ?_⟩
      obtain ⟨m, hm, hmp⟩ := hw.arena.root_get
      rw [hm] at hn
      cases hn
      rw [hmp, hp]
    rw [upsertWith.eq_1]
    simp only [beq_iff_eq, hp, if_false]
    have hg := hw.grown_touch hp e.name origin
    have ht := hw.stampsOnly_touch (T := Touched lookup g e) (Or.inl rfl) e.name origin
    rcases htouch : g.touch e.pid e.name origin with ⟨g₁, h₁⟩
    rw [htouch] at hg ht
    have huntracked : ∀ q : Pid, g₁.index[q]? = none → g.index[q]? = none := by
      intro q hq
      cases hq' : g.index[q]? with
      | none => rfl
      | some x => rw [hg.index_mono hq'] at hq; cases hq
    have hrest : ∀ (G : Graph) (t : Handle), StampsOnly (Touched lookup g e) g₁ G →
        StampsOnly (Touched lookup g e) g (G.attach h₁ t) :=
      fun G t hG ↦ ht.trans (hG.trans stampsOnly_attach)
    cases fuel with
    | zero => exact hrest g₁ g₁.root .refl
    | succ k =>
      dsimp only
      cases hq : g₁.index[e.parent]? with
      | some ph => exact hrest g₁ ph .refl
      | none =>
        cases hl : lookup e.parent with
        | some pe =>
          refine hrest _ _ ((stampsOnly_upsertWith hlookup k g₁ notes pe .observed hg.consistent).mono ?_)
          rintro q (rfl | hq' | ⟨hq', hl'⟩)
          · exact Or.inr (Or.inl (by rw [hlookup _ _ hl, hl]; rfl))
          · exact Or.inr (Or.inl hq')
          · exact Or.inr (Or.inr ⟨huntracked q hq', hl'⟩)
        | none =>
          refine hrest _ _ ((stampsOnly_upsertWith hlookup k g₁ _ _ .placeholder hg.consistent).mono ?_)
          rintro q (rfl | hq' | ⟨hq', hl'⟩)
          · exact Or.inr (Or.inr ⟨huntracked _ hq, hl⟩)
          · exact Or.inr (Or.inl hq')
          · exact Or.inr (Or.inr ⟨huntracked q hq', hl'⟩)

theorem up_upsertWith_placeholder (hw : g.Consistent) (hq : q ≠ rootPid) (fuel : Nat)
    (notes : Array Note) (origin : Origin) :
    (upsertWith lookup fuel (g, notes) ⟨q, rootPid, ""⟩ origin).1.1.up
        (upsertWith lookup fuel (g, notes) ⟨q, rootPid, ""⟩ origin).2 =
      some (upsertWith lookup fuel (g, notes) ⟨q, rootPid, ""⟩ origin).1.1.root := by
  rw [upsertWith.eq_1]
  simp only [beq_iff_eq, hq, if_false, parent_placeholder]
  have hg := hw.grown_touch hq "" origin
  rcases htouch : g.touch q "" origin with ⟨g₁, h₁⟩
  rw [htouch] at hg
  have hroot : (g₁.attach h₁ g₁.root).up h₁ = some (g₁.attach h₁ g₁.root).root := by
    rw [up_attach hg.live_self, if_pos rfl, ite_self, sameNodes_attach.root_eq]
  cases fuel with
  | zero => exact hroot
  | succ k =>
    dsimp only
    rw [hg.consistent.arena.index_root]
    exact hroot

theorem parentOf_upsertWith_placeholder (hlookup : ∀ q pe, lookup q = some pe → pe.pid = q)
    (hw : g.Consistent) (hq : q ≠ rootPid) (fuel : Nat) (notes : Array Note) (origin : Origin) :
    (upsertWith lookup fuel (g, notes) ⟨q, rootPid, ""⟩ origin).1.1.parentOf q = some rootPid := by
  have hi := inserted_upsertWith hlookup fuel g notes ⟨q, rootPid, ""⟩ origin hw
  rw [parentOf_of_index hi.index_self, up_upsertWith_placeholder hw hq, Option.bind_some]
  exact (hi.consistent.pidOf_iff).mpr hi.consistent.arena.index_root

theorem touch_index_of_ne {name : String} {origin : Origin} (hq : q ≠ p) :
    (g.touch p name origin).1.index[q]? = g.index[q]? := by
  cases hi : g.index[p]? with
  | some h₀ => rw [touch_of_some hi, update_index]
  | none =>
    rw [touch_of_none hi]
    exact (getElem?_insert_pid).trans (if_neg (Ne.symm hq))

theorem parentOf_upsertWith_new (hlookup : ∀ q pe, lookup q = some pe → pe.pid = q) :
    ∀ (fuel : Nat) (g : Graph) (notes : Array Note) (e : Entry) (origin : Origin), g.Consistent →
      ∀ q, g.index[q]? = none → lookup q = none → q ≠ e.pid →
        ((upsertWith lookup fuel (g, notes) e origin).1.1.index[q]?).isSome →
        (upsertWith lookup fuel (g, notes) e origin).1.1.parentOf q = some rootPid
  | fuel, g, notes, e, origin, hw => by
    intro q hq hlq hqe
    by_cases hp : e.pid = rootPid
    · rw [upsertWith_root hp, update_index, hq]
      exact fun h ↦ absurd h (by decide)
    rw [upsertWith.eq_1]
    simp only [beq_iff_eq, hp, if_false]
    have hg := hw.grown_touch hp e.name origin
    have hq₁ : (g.touch e.pid e.name origin).1.index[q]? = g.index[q]? := touch_index_of_ne hqe
    rcases htouch : g.touch e.pid e.name origin with ⟨g₁, h₁⟩
    rw [htouch] at hg hq₁
    rw [hq] at hq₁
    have hrest : ∀ (G : Graph) (t : Handle), G.Consistent → G.index[e.pid]? = some h₁ →
        ((G.index[q]?).isSome → G.parentOf q = some rootPid) →
        ((G.attach h₁ t).index[q]?).isSome → (G.attach h₁ t).parentOf q = some rootPid := by
      intro G t hG hh hGq hq'
      rw [parentOf_attach hG hh, if_neg hqe]
      exact hGq (by rwa [sameNodes_attach.index_eq] at hq')
    have huntracked : ((g₁.index[q]?).isSome → g₁.parentOf q = some rootPid) := by
      rw [hq₁]
      exact fun h ↦ absurd h (by decide)
    cases fuel with
    | zero => exact hrest g₁ g₁.root hg.consistent hg.index_self huntracked
    | succ k =>
      dsimp only
      cases hpar : g₁.index[e.parent]? with
      | some ph => exact hrest g₁ ph hg.consistent hg.index_self huntracked
      | none =>
        cases hl : lookup e.parent with
        | some pe =>
          have h₂ := inserted_upsertWith hlookup k g₁ notes pe .observed hg.consistent
          refine hrest _ _ h₂.consistent (h₂.index_mono hg.index_self) ?_
          refine parentOf_upsertWith_new hlookup k g₁ notes pe .observed hg.consistent q hq₁ hlq ?_
          rintro rfl
          rw [hlookup _ _ hl, hl] at hlq
          cases hlq
        | none =>
          have h₂ := inserted_upsertWith hlookup k g₁ (notes.push (.placeholder e.parent))
            ⟨e.parent, rootPid, ""⟩ .placeholder hg.consistent
          refine hrest _ _ h₂.consistent (h₂.index_mono hg.index_self) fun hq₂ ↦ ?_
          by_cases hqp : q = e.parent
          · subst hqp
            exact parentOf_upsertWith_placeholder hlookup hg.consistent
              (fun h ↦ by rw [h, hg.consistent.arena.index_root] at hpar; cases hpar) k _ _
          · exact parentOf_upsertWith_new hlookup k g₁ _ _ .placeholder hg.consistent q hq₁ hlq hqp hq₂

end Upsert

theorem Entry.parent_ne_pid {e : Entry} (hp : e.pid ≠ rootPid) : e.parent ≠ e.pid := by
  unfold Entry.parent
  split
  · exact Ne.symm hp
  · rename_i hne
    exact fun h ↦ hne (beq_iff_eq.mpr h)

theorem Consistent.isAncestor_of_up_root (hw : g.Consistent) (ht : g.up t = some g.root)
    (hht : h ≠ t) (hhr : h ≠ g.root) : g.isAncestor h t = false := by
  rw [Bool.eq_false_iff]
  intro hanc
  rcases ((isAncestor_iff hw.forest.acyclic).mp hanc).cases_head with hth | ⟨y, hty, hyh⟩
  · exact hht hth.symm
  · have hy : y = g.root := Option.some.inj (hty.symm.trans ht)
    subst hy
    exact hw.not_reach_root hhr hyh

theorem Consistent.parentOf_attach_of_up_root (hw : g.Consistent) (hh : g.index[p]? = some h)
    (ht : g.index[q]? = some t) (hup : g.up t = some g.root) (hpq : p ≠ q) (hp : p ≠ rootPid) :
    (g.attach h t).parentOf p = some q := by
  have hht : h ≠ t := fun he ↦ hpq (hw.arena.pid_eq_of_index hh (he ▸ ht))
  have hhr : h ≠ g.root := fun he ↦ hp (hw.arena.pid_eq_of_index hh (he ▸ hw.arena.index_root))
  rw [parentOf_attach hw hh, if_pos rfl, hw.isAncestor_of_up_root hup hht hhr]
  simp only [Bool.false_eq_true, ↓reduceIte]
  exact (hw.pidOf_iff).mpr ht

section Upsert

variable {lookup : Pid → Option Entry} {e : Entry}

theorem Consistent.parentOf_upsertWith_of_up_root (hlookup : ∀ q pe, lookup q = some pe → pe.pid = q)
    (hw : g.Consistent) (hp : e.pid ≠ rootPid) (hl : lookup e.parent = none)
    (hpar : ∀ ph, g.index[e.parent]? = some ph → g.up ph = some g.root) (k : Nat) (notes : Array Note)
    (origin : Origin) :
    (upsertWith lookup (k + 1) (g, notes) e origin).1.1.parentOf e.pid = some e.parent := by
  rw [upsertWith.eq_1]
  simp only [beq_iff_eq, hp, if_false]
  have hne := Entry.parent_ne_pid hp
  have hg := hw.grown_touch hp e.name origin
  have hq₁ : (g.touch e.pid e.name origin).1.index[e.parent]? = g.index[e.parent]? :=
    touch_index_of_ne hne
  have hr₁ : (g.touch e.pid e.name origin).1.index[rootPid]? = g.index[rootPid]? :=
    touch_index_of_ne (Ne.symm hp)
  have hup₁ : ∀ x, (g.touch e.pid e.name origin).1.up x = g.up x := fun _ ↦ up_touch hw
  rcases htouch : g.touch e.pid e.name origin with ⟨g₁, h₁⟩
  rw [htouch] at hg hq₁ hr₁ hup₁
  dsimp only
  cases hq : g₁.index[e.parent]? with
  | some ph =>
    have hroot : g₁.root = g.root := by simp [root, hr₁]
    rw [hq₁] at hq
    exact hg.consistent.parentOf_attach_of_up_root hg.index_self (hq₁ ▸ hq)
      (by rw [hup₁, hroot]; exact hpar ph hq) hne.symm hp
  | none =>
    rw [hl]
    dsimp only
    have h₂ := inserted_upsertWith hlookup k g₁ (notes.push (.placeholder e.parent))
      ⟨e.parent, rootPid, ""⟩ .placeholder hg.consistent
    exact h₂.consistent.parentOf_attach_of_up_root (h₂.index_mono hg.index_self) h₂.index_self
      (up_upsertWith_placeholder hg.consistent
        (fun h ↦ by rw [h, hg.consistent.arena.index_root] at hq; cases hq) k _ _) hne.symm hp

end Upsert

theorem Consistent.up_eq_root (hw : g.Consistent) (hx : g.index[q]? = some x)
    (hq : g.parentOf q = some rootPid) : g.up x = some g.root := by
  rw [parentOf_of_index hx] at hq
  obtain ⟨y, hy, hyr⟩ := Option.bind_eq_some_iff.mp hq
  rw [hy, (hw.pidOf_iff.mp hyr).symm.trans hw.arena.index_root |> Option.some.inj]

theorem Consistent.link_of_parentOf (hw : g.Consistent) (hx : g.index[p]? = some x)
    (hy : g.index[q]? = some y) (hpq : g.parentOf p = some q) : g.Link x y := by
  rw [parentOf_of_index hx] at hpq
  obtain ⟨z, hz, hzq⟩ := Option.bind_eq_some_iff.mp hpq
  rw [Link, hz, Option.some.inj ((hw.pidOf_iff.mp hzq).symm.trans hy)]

theorem batchIndex_isSome {es : List Entry} {e : Entry} (he : e ∈ es) :
    ((batchIndex es)[e.pid]?).isSome := by
  suffices hfold : ∀ (ds : List Entry) (m : Std.TreeMap Pid Entry compare),
      (e ∈ ds ∨ (m[e.pid]?).isSome) → ((ds.foldl (fun m e ↦ m.insert e.pid e) m)[e.pid]?).isSome from
    hfold es ∅ (Or.inl he)
  intro ds
  induction ds with
  | nil => exact fun _ h ↦ h.resolve_left List.not_mem_nil
  | cons d ds ih =>
    intro m h
    apply ih
    rcases h with h | h
    · rcases List.mem_cons.mp h with rfl | h
      · exact Or.inr (by rw [getElem?_insert_pid, if_pos rfl]; rfl)
      · exact Or.inl h
    · refine Or.inr ?_
      rw [getElem?_insert_pid]
      split
      · rfl
      · exact h

/-- A pid that only a placeholder of a pass over `es` from `g` can get: untracked before the pass
and not in the batch. -/
def Fresh (g : Graph) (es : List Entry) (p : Pid) : Prop := g.index[p]? = none ∧ ∀ e ∈ es, e.pid ≠ p

def PassPid (g : Graph) (es : List Entry) (p : Pid) : Prop := (∃ e ∈ es, e.pid = p) ∨ Fresh g es p

theorem Fresh.batchIndex_none {es : List Entry} (hp : Fresh g es p) : (batchIndex es)[p]? = none := by
  cases hb : (batchIndex es)[p]? with
  | none => rfl
  | some pe => exact absurd (batchIndex_spec hb).1 (hp.2 pe (batchIndex_spec hb).2)

/-- The state part-way through the insertions of a refresh pass over `es` from `g`, whatever pids
the batch repeats: the pass stamped only pids it may stamp, and a fresh pid hangs directly below
the root. -/
structure FreshRooted (g : Graph) (es : List Entry) (G : Graph) : Prop where
  consistent : G.Consistent
  index_mono : ∀ {q : Pid} {x : Handle}, g.index[q]? = some x → G.index[q]? = some x
  stamps : StampsOnly (PassPid g es) { g with epoch := g.epoch + 1 } G
  fresh_root : ∀ p, Fresh g es p → (G.index[p]?).isSome → G.parentOf p = some rootPid

namespace FreshRooted

variable {es : List Entry} {e : Entry} {G : Graph}

theorem start (hw : g.Consistent) : FreshRooted g es { g with epoch := g.epoch + 1 } := by
  refine ⟨(Restamped.setEpoch hw (g.epoch + 1)).consistent, id, .refl, fun p hp htr ↦ ?_⟩
  rw [show ({ g with epoch := g.epoch + 1 } : Graph).index = g.index from rfl, hp.1] at htr
  cases htr

theorem step (hF : FreshRooted g es G) (he : e ∈ es) (notes : Array Note) :
    FreshRooted g es (upsertWith (fun q ↦ (batchIndex es)[q]?) chaseLimit (G, notes) e .observed).1.1 := by
  have hlookup : ∀ (q : Pid) (pe : Entry), (batchIndex es)[q]? = some pe → pe.pid = q ∧ pe ∈ es :=
    fun _ _ h ↦ batchIndex_spec h
  have hpid : ∀ (q : Pid) (pe : Entry), (batchIndex es)[q]? = some pe → pe.pid = q :=
    fun q pe h ↦ (hlookup q pe h).1
  have hi := inserted_upsertWith hpid chaseLimit G notes e .observed hF.consistent
  have hne : ∀ p, Fresh g es p → p ≠ e.pid := fun p hp h ↦ hp.2 e he h.symm
  refine ⟨hi.consistent, fun hq ↦ hi.index_mono (hF.index_mono hq), ?_, fun p hp htr ↦ ?_⟩
  · refine hF.stamps.trans ((stampsOnly_upsertWith hpid chaseLimit G notes e .observed
      hF.consistent).mono ?_)
    rintro p (rfl | hp | ⟨hp, hl⟩)
    · exact Or.inl ⟨e, he, rfl⟩
    · obtain ⟨pe, hpe⟩ := Option.isSome_iff_exists.mp hp
      exact Or.inl ⟨pe, (hlookup p pe hpe).2, (hlookup p pe hpe).1⟩
    · refine Or.inr ⟨?_, fun e' he' hep ↦ ?_⟩
      · cases hg : g.index[p]? with
        | none => rfl
        | some x => rw [hF.index_mono hg] at hp; cases hp
      · have hb := batchIndex_isSome he'
        rw [hep, hl] at hb
        cases hb
  · cases hG : G.index[p]? with
    | some x =>
      rw [hi.parentOf_frame hF.consistent (hne p hp) hG]
      exact hF.fresh_root p hp (by rw [hG]; rfl)
    | none =>
      exact parentOf_upsertWith_new hpid chaseLimit G notes e .observed hF.consistent p hG
        hp.batchIndex_none (hne p hp) htr

theorem foldl : ∀ (ds : List Entry) (acc : Graph × Array Note), FreshRooted g es acc.1 → (∀ e ∈ ds, e ∈ es) →
    FreshRooted g es
      (ds.foldl (fun acc e ↦ (upsertWith (fun q ↦ (batchIndex es)[q]?) chaseLimit acc e .observed).1) acc).1
  | [], _, hF, _ => hF
  | e :: ds, ⟨_, notes⟩, hF, hds =>
    foldl ds _ (hF.step (hds e List.mem_cons_self) notes) fun e' he' ↦ hds e' (List.mem_cons_of_mem _ he')

end FreshRooted

/-- The state part-way through the insertions of a refresh pass over `es` from `g`, once the
entries of `done` have had their turn: the pass stamped only pids it may stamp, a fresh pid
hangs directly below the root and is named as parent by an entry, and an entry that had its turn
hangs below the fresh parent it names. -/
structure Covering (g : Graph) (es done : List Entry) (G : Graph) : Prop where
  consistent : G.Consistent
  index_mono : ∀ {q : Pid} {x : Handle}, g.index[q]? = some x → G.index[q]? = some x
  stamps : StampsOnly (PassPid g es) { g with epoch := g.epoch + 1 } G
  fresh_root : ∀ p, Fresh g es p → (G.index[p]?).isSome → G.parentOf p = some rootPid
  fresh_named : ∀ p, Fresh g es p → (G.index[p]?).isSome → ∃ e ∈ es, e.pid ≠ rootPid ∧ e.parent = p
  fresh_child : ∀ e ∈ done, e.pid ≠ rootPid → Fresh g es e.parent → G.parentOf e.pid = some e.parent

namespace Covering

variable {es done : List Entry} {e : Entry} {G : Graph}

theorem start (hw : g.Consistent) : Covering g es [] { g with epoch := g.epoch + 1 } := by
  have hopen := Restamped.setEpoch hw (g.epoch + 1)
  have huntracked : ∀ p, Fresh g es p → ({ g with epoch := g.epoch + 1 }.index[p]?).isSome → False := by
    intro p hp htr
    rw [show ({ g with epoch := g.epoch + 1 } : Graph).index = g.index from rfl, hp.1] at htr
    cases htr
  exact ⟨hopen.consistent, id, .refl, fun p hp htr ↦ (huntracked p hp htr).elim,
    fun p hp htr ↦ (huntracked p hp htr).elim, fun _ he ↦ absurd he List.not_mem_nil⟩

theorem toFreshRooted (hC : Covering g es done G) : FreshRooted g es G :=
  ⟨hC.consistent, hC.index_mono, hC.stamps, hC.fresh_root⟩

theorem step (hC : Covering g es done G) (hw : g.Consistent) (he : e ∈ es)
    (hfresh : ∀ e' ∈ done, e'.pid ≠ e.pid) (notes : Array Note) :
    Covering g es (done ++ [e])
      (upsertWith (fun q ↦ (batchIndex es)[q]?) chaseLimit (G, notes) e .observed).1.1 := by
  have hlookup : ∀ (q : Pid) (pe : Entry), (batchIndex es)[q]? = some pe → pe.pid = q ∧ pe ∈ es :=
    fun _ _ h ↦ batchIndex_spec h
  have hpid : ∀ (q : Pid) (pe : Entry), (batchIndex es)[q]? = some pe → pe.pid = q :=
    fun q pe h ↦ (hlookup q pe h).1
  have hi := inserted_upsertWith hpid chaseLimit G notes e .observed hC.consistent
  have hF := hC.toFreshRooted.step he notes
  refine ⟨hF.consistent, hF.index_mono, hF.stamps, hF.fresh_root, fun p hp htr ↦ ?_, fun e' he' hp' hfr ↦ ?_⟩
  · have hnamed := tracked_upsertWith (S := Named es) (Or.inl rfl)
      (fun q pe h ↦ ⟨Or.inr (Or.inl ⟨pe, (hlookup q pe h).2, rfl⟩),
        fun hp ↦ Or.inr (Or.inr ⟨pe.pid, pe, (hlookup q pe h).2, rfl, hp, rfl⟩)⟩)
      chaseLimit G notes e .observed (Or.inr (Or.inl ⟨e, he, rfl⟩))
      (fun hp ↦ Or.inr (Or.inr ⟨e.pid, e, he, rfl, hp, rfl⟩)) p htr
    rcases hnamed with hG | rfl | ⟨e', he', hep⟩ | ⟨a, e', he', rfl, ha, hpar⟩
    · exact hC.fresh_named p hp hG
    · have hr := hp.1
      rw [hw.arena.index_root] at hr
      cases hr
    · exact absurd hep (hp.2 e' he')
    · exact ⟨e', he', ha, hpar⟩
  · rcases List.mem_append.mp he' with he' | he'
    · have hold := hC.fresh_child e' he' hp' hfr
      obtain ⟨x, hx⟩ := Option.isSome_iff_exists.mp (index_of_parentOf hold)
      rw [hi.parentOf_frame hC.consistent (hfresh e' he') hx]
      exact hold
    · obtain rfl := List.mem_singleton.mp he'
      exact hC.consistent.parentOf_upsertWith_of_up_root hpid hp' hfr.batchIndex_none
        (fun ph hph ↦ hC.consistent.up_eq_root hph (hC.fresh_root _ hfr (by rw [hph]; rfl)))
        (chaseLimit - 1) notes .observed

theorem foldl (hw : g.Consistent) :
    ∀ (ds done : List Entry) (acc : Graph × Array Note), Covering g es done acc.1 →
      (∀ e ∈ ds, e ∈ es) → ((done ++ ds).map (·.pid)).Nodup →
      Covering g es (done ++ ds)
        (ds.foldl (fun acc e ↦ (upsertWith (fun q ↦ (batchIndex es)[q]?) chaseLimit acc e .observed).1)
          acc).1
  | [], done, acc, hC, _, _ => by
    rw [List.append_nil]
    exact hC
  | e :: ds, done, ⟨G, notes⟩, hC, hds, hnodup => by
    have hfresh : ∀ e' ∈ done, e'.pid ≠ e.pid := by
      intro e' he' heq
      rw [List.map_append, List.nodup_append] at hnodup
      exact hnodup.2.2 _ (List.mem_map_of_mem he') _ (List.mem_map_of_mem List.mem_cons_self) heq
    have hC' := hC.step hw (hds e List.mem_cons_self) hfresh notes
    have hrest := foldl hw ds (done ++ [e]) _ hC'
      (fun e' he' ↦ hds e' (List.mem_cons_of_mem _ he')) (by simpa using hnodup)
    rw [List.append_assoc, List.singleton_append] at hrest
    exact hrest

theorem covered (hC : Covering g es es G) (hb : StampsBounded g) (hx : G.get? x = some n)
    (hs : n.seen = G.epoch) : ∃ e ∈ es, ∃ h, G.index[e.pid]? = some h ∧ ReflTransGen G.Link h x := by
  have hidx := hC.consistent.arena.get_index hx
  rcases hC.stamps.2 hx with ⟨n₀, hn₀, hs₀, -⟩ | ⟨-, ⟨e, he, hep⟩ | hfr⟩
  · have hle := hb (show g.get? x = some n₀ from hn₀)
    rw [← hs₀, hs, hC.stamps.1] at hle
    exact absurd hle (Nat.not_succ_le_self _)
  · exact ⟨e, he, x, hep ▸ hidx, .refl⟩
  · obtain ⟨e, he, hp, hpar⟩ := hC.fresh_named _ hfr (by rw [hidx]; rfl)
    have hlink := hC.fresh_child e he hp (hpar ▸ hfr)
    obtain ⟨h, hh⟩ := Option.isSome_iff_exists.mp (index_of_parentOf hlink)
    exact ⟨e, he, h, hh, .single (hC.consistent.link_of_parentOf hh (hpar ▸ hidx) hlink)⟩

end Covering

def AboveSeen (g G : Graph) : Prop :=
  ∀ ⦃x n⦄, G.get? x = some n → n.seen = G.epoch → ∃ y, SeenNow g y ∧ ReflTransGen g.Link y x

theorem AboveSeen.refl : AboveSeen g g := fun x n hx hs ↦ ⟨x, ⟨n, hx, hs⟩, .refl⟩

theorem epoch_markUp {epoch fuel : Nat} {acc : Graph × Std.HashSet Handle} {oh : Option Handle} :
    (markUp epoch fuel acc oh).1.epoch = acc.1.epoch := by
  fun_induction Graph.markUp epoch fuel acc oh with
  | case4 _ _ _ _ _ _ _ _ ih => exact ih.trans update_epoch
  | _ => rfl

theorem aboveSeen_markUp {fuel : Nat} {acc : Graph × Std.HashSet Handle} {oh : Option Handle}
    (hr : Restamped g acc.1) (hep : acc.1.epoch = g.epoch) (ha : AboveSeen g acc.1)
    (hoh : ∀ h, oh = some h → ∃ y, SeenNow g y ∧ ReflTransGen g.Link y h) :
    AboveSeen g (markUp g.epoch fuel acc oh).1 := by
  fun_induction Graph.markUp g.epoch fuel acc oh with
  | case1 => exact ha
  | case2 => exact ha
  | case3 => exact ha
  | case4 fuel G marked h _ _ n hn ih =>
    dsimp only at hr hep ha hoh ⊢
    refine ih (hr.stamp h g.epoch) (by rw [update_epoch, hep]) ?_ fun y hy ↦ ?_
    · intro x m hx hs
      rw [get?_update] at hx
      split at hx
      · subst x
        exact hoh h rfl
      · exact ha hx (by rwa [update_epoch] at hs)
    · obtain ⟨z, hz, hzh⟩ := hoh h rfl
      have hup : g.Link h y := by rw [Link, ← hr.up_eq, up, hn, Option.bind_some, hy]
      exact ⟨z, hz, hzh.tail hup⟩
  | case5 => exact ha

theorem aboveSeen_stampAncestors (hw : g.Consistent) : AboveSeen g g.stampAncestors := by
  unfold stampAncestors
  dsimp only
  suffices hfold : ∀ (hs : List Handle) (acc : Graph × Std.HashSet Handle), (∀ h ∈ hs, SeenNow g h) →
      Restamped g acc.1 → acc.1.epoch = g.epoch → AboveSeen g acc.1 →
      AboveSeen g (hs.foldl (fun acc h ↦ markUp g.epoch (g.size + 1) acc (acc.1.up h)) acc).1 by
    refine hfold _ _ (fun h hh ↦ ?_) (.refl hw) rfl .refl
    obtain ⟨⟨p, x⟩, -, hx⟩ := List.mem_filterMap.mp hh
    dsimp only at hx
    split at hx
    · cases hx
      rename_i hany
      cases hn : g.get? h with
      | none => simp [hn] at hany
      | some n => exact ⟨n, hn, by simpa [hn] using hany⟩
    · cases hx
  intro hs
  induction hs with
  | nil => exact fun _ _ _ _ ha ↦ ha
  | cons h hs ih =>
    intro acc hseen hr hep ha
    refine ih _ (fun h' hh' ↦ hseen h' (List.mem_cons_of_mem _ hh')) hr.markUp ?_
      (aboveSeen_markUp hr hep ha fun y hy ↦ ⟨h, hseen h List.mem_cons_self, .single ?_⟩)
    · rw [epoch_markUp, hep]
    · rwa [Link, ← hr.up_eq]

section Bounded

variable {T : Pid → Prop} (hT : ∀ p, T p)
include hT

theorem stampsOnly_markUp {epoch fuel : Nat} {acc : Graph × Std.HashSet Handle} {oh : Option Handle}
    (hep : acc.1.epoch = epoch) : StampsOnly T acc.1 (markUp epoch fuel acc oh).1 := by
  fun_induction Graph.markUp epoch fuel acc oh with
  | case4 fuel G marked h _ _ n hn ih =>
    dsimp only at hep ⊢
    exact (stampsOnly_update (f := fun n ↦ { n with seen := epoch }) (fun _ ↦ rfl)
      fun _ _ ↦ Or.inr ⟨hep.symm, hT _⟩).trans (ih (by rw [update_epoch, hep]))
  | _ => exact .refl

theorem stampsOnly_stampAncestors : StampsOnly T g g.stampAncestors := by
  unfold stampAncestors
  dsimp only
  suffices hfold : ∀ (hs : List Handle) (acc : Graph × Std.HashSet Handle), acc.1.epoch = g.epoch →
      StampsOnly T acc.1 (hs.foldl (fun acc h ↦ markUp g.epoch (g.size + 1) acc (acc.1.up h)) acc).1 from
    hfold _ _ rfl
  intro hs
  induction hs with
  | nil => exact fun _ _ ↦ .refl
  | cons h hs ih =>
    intro acc hep
    exact (stampsOnly_markUp hT hep).trans (ih _ (by rw [epoch_markUp, hep]))

theorem stampsOnly_upsertFold {lookup : Pid → Option Entry}
    (hlookup : ∀ q pe, lookup q = some pe → pe.pid = q) :
    ∀ (es : List Entry) (acc : Graph × Array Note), acc.1.Consistent →
      StampsOnly T acc.1 (es.foldl (fun acc e ↦ (upsertWith lookup chaseLimit acc e .observed).1) acc).1
  | [], _, _ => .refl
  | e :: es, ⟨g, notes⟩, hw =>
    ((stampsOnly_upsertWith hlookup chaseLimit g notes e .observed hw).mono fun p _ ↦ hT p).trans
      (stampsOnly_upsertFold hlookup es _ (inserted_upsertWith hlookup chaseLimit g notes e .observed hw).consistent)

end Bounded

theorem StampsBounded.setEpoch (hb : StampsBounded g) : StampsBounded { g with epoch := g.epoch + 1 } :=
  fun _ _ hx ↦ (hb hx).trans (Nat.le_succ _)

theorem Consistent.stampsOnly_refresh (hw : g.Consistent) (es : List Entry) :
    StampsOnly (fun _ ↦ True) { g with epoch := g.epoch + 1 } (g.refresh es).1 := by
  have hopen := Restamped.setEpoch hw (g.epoch + 1)
  have hfold := stampsOnly_upsertFold (T := fun _ ↦ True) (fun _ ↦ trivial)
    (fun q pe (h : (batchIndex es)[q]? = some pe) ↦ batchIndex_pid h) es (_, #[]) hopen.consistent
  rw [refresh_fst]
  exact hfold.trans (stampsOnly_stampAncestors fun _ ↦ trivial)

theorem Consistent.stampsBounded_refresh (hw : g.Consistent) (hb : StampsBounded g) (es : List Entry) :
    StampsBounded (g.refresh es).1 :=
  (hw.stampsOnly_refresh es).bounded hb.setEpoch

theorem Consistent.refresh_covered (hw : g.Consistent) (hb : StampsBounded g) {es : List Entry}
    (hnodup : (es.map (·.pid)).Nodup) (hx : SeenNow (g.refresh es).1 x) :
    ∃ e ∈ es, ∃ h, (g.refresh es).1.index[e.pid]? = some h ∧ ReflTransGen (g.refresh es).1.Link h x := by
  have hC := Covering.foldl hw es [] ({ g with epoch := g.epoch + 1 }, #[]) (Covering.start hw)
    (fun _ he ↦ he) (by simpa using hnodup)
  rw [List.nil_append] at hC
  rw [refresh_fst] at hx ⊢
  generalize (es.foldl (fun acc e ↦ (upsertWith (fun q ↦ (batchIndex es)[q]?) chaseLimit acc e .observed).1)
    ({ g with epoch := g.epoch + 1 }, #[])).1 = G at hC hx ⊢
  have hr := Restamped.stampAncestors hC.consistent
  have hlink : ∀ a b, G.stampAncestors.Link a b ↔ G.Link a b := fun a b ↦ by rw [Link, Link, hr.up_eq]
  obtain ⟨n, hn, hs⟩ := hx
  obtain ⟨y, ⟨m, hm, hms⟩, hyx⟩ := aboveSeen_stampAncestors hC.consistent hn hs
  obtain ⟨e, he, h, hh, hhy⟩ := hC.covered hb hm hms
  refine ⟨e, he, h, by rw [hr.nodes.index_eq]; exact hh, ?_⟩
  exact ReflTransGen.mono (fun a b hab ↦ (hlink a b).mpr hab) _ _ (hhy.trans hyx)

end KeystrokeTally.Proc.Graph
