import KeystrokeTally.Proofs.Graph.Placement
import KeystrokeTally.Proofs.Graph.Sweep

namespace KeystrokeTally.Proc.Graph

open Relation

variable {g g' g'' G : Graph} {D : List Handle} {h c x y : Handle} {n : Node} {p q : Pid}
  {alive : Pid → Bool}

/-- The nodes a removal from `h` takes: `h`, and every node linked below one of them whose
process is gone. -/
inductive Swept (g : Graph) (alive : Pid → Bool) (h : Handle) : Handle → Prop
  | top : Swept g alive h h
  | child {x c : Handle} {n : Node} : Swept g alive h x → g.Link c x → g.get? c = some n →
      alive n.pid = false → Swept g alive h c

/-- The pids a removal of `p` takes with it: `p`, and every pid linked below one of them whose
process is gone. -/
inductive Doomed (g : Graph) (alive : Pid → Bool) (p : Pid) : Pid → Prop
  | self : Doomed g alive p p
  | child {q r : Pid} : Doomed g alive p q → g.ParentEdge r q → alive r = false → Doomed g alive p r

/-- `g'` keeps every node of `g` outside `S`, with its own fields, and its links to nodes outside
`S`. -/
def Keeps (S : Handle → Prop) (g g' : Graph) : Prop :=
  ∀ ⦃x n⦄, g.get? x = some n → ¬ S x →
    ∃ n', g'.get? x = some n' ∧ n'.unlinked = n.unlinked ∧ ∀ y, g.Link x y → ¬ S y → g'.Link x y

namespace Keeps

variable {S S' : Handle → Prop}

theorem refl : Keeps S g g := fun _ n hx _ ↦ ⟨n, hx, rfl, fun _ hl _ ↦ hl⟩

theorem mono (hk : Keeps S g g') (hS : ∀ x, S x → S' x) : Keeps S' g g' := by
  intro x n hx hxS
  obtain ⟨n', hn', hu, hl⟩ := hk hx fun h ↦ hxS (hS x h)
  exact ⟨n', hn', hu, fun y hy hyS ↦ hl y hy fun h ↦ hyS (hS y h)⟩

theorem trans (h₁ : Keeps S g g') (h₂ : Keeps S g' g'') : Keeps S g g'' := by
  intro x n hx hxS
  obtain ⟨n', hn', hu, hl⟩ := h₁ hx hxS
  obtain ⟨n'', hn'', hu', hl'⟩ := h₂ hn' hxS
  exact ⟨n'', hn'', hu'.trans hu, fun y hy hyS ↦ hl' y (hl y hy hyS) hyS⟩

end Keeps

theorem keeps_of_unlinked {S : Handle → Prop}
    (hu : ∀ x, (g'.get? x).map Node.unlinked = (g.get? x).map Node.unlinked)
    (hl : ∀ x y, g.Link x y → ¬ S x → ¬ S y → g'.Link x y) : Keeps S g g' := by
  intro x n hx hxS
  have hux := hu x
  rw [hx, Option.map_some] at hux
  obtain ⟨n', hn', he⟩ := Option.map_eq_some_iff.mp hux
  exact ⟨n', hn', he, fun y hy hyS ↦ hl x y hy hxS hyS⟩

theorem keeps_unlink {S : Handle → Prop} (hS : S c) : Keeps S g (g.unlink c) := by
  refine keeps_of_unlinked (fun _ ↦ unlinked_unlink) fun x y hy hxS _ ↦ ?_
  rw [Link, up_unlink, if_neg fun (he : x = c) ↦ hxS (he ▸ hS)]
  exact hy

theorem keeps_takeChildren {S : Handle → Prop} :
    Keeps S g (g.update h fun n ↦ { n with children := [] }) := by
  refine keeps_of_unlinked (fun _ ↦ unlinked_update (by intro; rfl)) fun x y hy _ _ ↦ ?_
  rw [Link, up_takeChildren]
  exact hy

theorem keeps_clearParent {S : Handle → Prop} (hS : S c ∨ ∀ y, g.Link c y → S y) :
    Keeps S g (g.update c fun n ↦ { n with parent := none }) := by
  refine keeps_of_unlinked (fun _ ↦ unlinked_update (by intro; rfl)) fun x y hy hxS hyS ↦ ?_
  rw [Link, up_clearParent]
  split
  · next hxc =>
    subst hxc
    rcases hS with hS | hS
    · exact absurd hS hxS
    · exact absurd (hS y hy) hyS
  · exact hy

theorem keeps_drop {S : Handle → Prop} {m : Node} (hh : g.get? h = some m) (hS : S h) :
    Keeps S g ({ g with index := g.index.erase p }.release h) := by
  intro x n hx hxS
  have hxh : x ≠ h := fun he ↦ hxS (he ▸ hS)
  refine ⟨n, by rw [get?_drop hh, if_neg hxh]; exact hx, rfl, fun y hy _ ↦ ?_⟩
  rw [Link, up_drop hh, if_neg hxh]
  exact hy

namespace Swept

theorem reach (hs : Swept g alive h x) : ReflTransGen g.Link x h := by
  induction hs with
  | top => exact .refl
  | child _ hcx _ _ ih => exact ih.head hcx

theorem of_shrinks (hs : Shrinks g G) (hc : Swept g alive h c) (hx : Swept G alive c x) :
    Swept g alive h x := by
  induction hx with
  | top => exact hc
  | child _ hdx hd hdead ih =>
    obtain ⟨m, hm, hpid⟩ := hs.get_sub hd
    exact .child ih (hs.link_sub hdx) hm (hpid ▸ hdead)

theorem cases_top (hs : Swept g alive h x) :
    x = h ∨ ∃ c n, g.Link c h ∧ g.get? c = some n ∧ alive n.pid = false ∧ Swept g alive c x := by
  induction hs with
  | top => exact Or.inl rfl
  | child _ hdx hd hdead ih =>
    rcases ih with rfl | ⟨c, m, hch, hc, hcdead, hcx⟩
    · exact Or.inr ⟨_, _, hdx, hd, hdead, .top⟩
    · exact Or.inr ⟨c, m, hch, hc, hcdead, .child hcx hdx hd hdead⟩

end Swept

theorem Shrinks.eq_of_link (hs : Shrinks g G) (hch : g.Link c h) (hl : G.Link c y) : y = h :=
  Option.some.inj ((hs.link_sub hl).symm.trans hch)

theorem above_of_shrinks (hs : Shrinks g G) : ∀ {k : Nat} {x y : Handle}, G.above k x = some y →
    g.above k x = some y
  | 0, _, _, hk => hk
  | k + 1, x, y, hk => by
    rw [above_succ] at hk ⊢
    obtain ⟨z, hz, hzy⟩ := Option.bind_eq_some_iff.mp hk
    rw [hs.link_sub hz, Option.bind_some]
    exact above_of_shrinks hs hzy

section Subtrees

variable (hacyc : g.Acyclic)
include hacyc

theorem not_below_sibling {c' : Handle} (hc : g.Link c h) (hc' : g.Link c' h) (hne : c ≠ c')
    (hx : ReflTransGen g.Link x c) : ¬ ReflTransGen g.Link x c' := by
  intro hx'
  obtain ⟨k, hk⟩ := reflTransGen_iff_above.mp hx
  obtain ⟨k', hk'⟩ := reflTransGen_iff_above.mp hx'
  have hup : g.above (k + 1) x = some h := by rw [above_succ', hk, Option.bind_some]; exact hc
  have hup' : g.above (k' + 1) x = some h := by rw [above_succ', hk', Option.bind_some]; exact hc'
  rcases Nat.lt_trichotomy k k' with hlt | rfl | hgt
  · exact above_injective hacyc (Nat.succ_lt_succ hlt) hup hup'
  · rw [hk] at hk'
    exact hne (Option.some.inj hk')
  · exact above_injective hacyc (Nat.succ_lt_succ hgt) hup' hup

theorem not_above_child (hc : g.Link c h) : ¬ ReflTransGen g.Link h c :=
  fun hr ↦ hacyc c (TransGen.head' hc hr)

end Subtrees

theorem below_of_link (hc : g.Link c h) (hx : ReflTransGen g.Link x c) (hxy : g.Link x y)
    (hyh : y ≠ h) : ReflTransGen g.Link y c := by
  rcases hx.cases_head with rfl | ⟨z, hxz, hzc⟩
  · rw [Link, hc] at hxy
    exact absurd (Option.some.inj hxy).symm hyh
  · rw [Link, hxy] at hxz
    cases hxz
    exact hzc

theorem Consistent.above_lt_size (hw : g.Consistent) (hh : (g.get? h).isSome) (hr : h ≠ g.root)
    {k : Nat} (hk : g.above k x = some h) : k + 1 < g.size := by
  have hacyc := hw.forest.acyclic
  let node : Nat → Handle := fun i ↦ (g.above i x).getD g.root
  have hnode : ∀ i < k + 1, g.above i x = some (node i) ∧ (g.get? (node i)).isSome ∧ node i ≠ g.root := by
    intro i hi
    rcases Nat.lt_or_eq_of_le (Nat.lt_succ_iff.mp hi) with hlt | rfl
    · obtain ⟨d, rfl⟩ := Nat.exists_eq_add_of_lt hlt
      rw [show i + d + 1 = (i + 1) + d by omega, above_add] at hk
      obtain ⟨z, hz, -⟩ := Option.bind_eq_some_iff.mp hk
      obtain ⟨y, m, hy, hm⟩ := live_of_above_succ hz
      have hyr : y ≠ g.root := by
        rintro rfl
        rw [above_succ', hy, Option.bind_some, hw.forest.root_up] at hz
        cases hz
      have hi : node i = y := by simp only [node, hy, Option.getD_some]
      rw [hi]
      exact ⟨hy, by simp [hm], hyr⟩
    · have hi : node i = h := by simp only [node, hk, Option.getD_some]
      rw [hi]
      exact ⟨hk, hh, hr⟩
  have hinj : Set.InjOn node (Finset.range (k + 1)) := by
    intro i hi j hj hij
    have hi' := (hnode i (Finset.mem_range.mp hi)).1
    have hj' := (hnode j (Finset.mem_range.mp hj)).1
    rw [hij] at hi'
    rcases Nat.lt_trichotomy i j with hlt | heq | hgt
    · exact (above_injective hacyc hlt hi' hj').elim
    · exact heq
    · exact (above_injective hacyc hgt hj' hi').elim
  have hroot : g.root ∉ (Finset.range (k + 1)).image node := by
    rw [Finset.mem_image]
    rintro ⟨i, hi, he⟩
    exact (hnode i (Finset.mem_range.mp hi)).2.2 he
  have hsub : insert g.root ((Finset.range (k + 1)).image node) ⊆ g.liveSet := by
    intro y hy
    rw [mem_liveSet]
    rcases Finset.mem_insert.mp hy with rfl | hy
    · exact hw.root_live
    · obtain ⟨i, hi, rfl⟩ := Finset.mem_image.mp hy
      exact (hnode i (Finset.mem_range.mp hi)).2.1
  have hcard := (Finset.card_le_card hsub).trans hw.arena.card_liveSet_le
  rw [Finset.card_insert_of_notMem hroot, Finset.card_image_of_injOn hinj, Finset.card_range] at hcard
  omega

section Loop

variable {D₀ : List Handle} {fuel : Nat}
  (ih : ∀ (G : Graph) (D : List Handle) (p : Pid) (c : Handle), G.Wf D → G.index[p]? = some c → c ∉ D →
    p ≠ rootPid → (∀ x k, Swept G alive c x → G.above k x = some c → k < fuel) →
    Keeps (Swept G alive c) G (removeTree alive fuel G p) ∧
      ∀ x, Swept G alive c x → (removeTree alive fuel G p).get? x = none)
  (hwg : g.Wf D₀)
include ih hwg

theorem removeChild_sweeps (hw : G.Wf (h :: D)) (hs : Shrinks g G) (hch : g.Link c h) (hcD : c ∉ h :: D)
    (hsub : Keeps (fun x ↦ ¬ ReflTransGen g.Link x c) g G)
    (hfuel : ∀ x k, Swept g alive h x → g.above k x = some h → k < fuel + 1) :
    Keeps (fun x ↦ ReflTransGen g.Link x c) G (removeChild alive fuel G c) ∧
      Keeps (Swept g alive h) G (removeChild alive fuel G c) ∧
      ∀ n, g.get? c = some n → alive n.pid = false → ∀ x, Swept g alive c x →
        (removeChild alive fuel G c).get? x = none := by
  have hacyc := hwg.forest.acyclic
  obtain ⟨n₀, hn₀⟩ := Option.isSome_iff_exists.mp (live_of_link hch)
  obtain ⟨n, hn, hu, -⟩ := hsub hn₀ (not_not_intro .refl)
  have hpid : n.pid = n₀.pid := (congrArg Node.pid hu :)
  have hcq : ∀ {q}, G.Link c q → q = h := hs.eq_of_link hch
  have hk₁ : ∀ S : Handle → Prop, S c ∨ S h → Keeps S G (G.update c fun n ↦ { n with parent := none }) :=
    fun S hS ↦ keeps_clearParent (hS.imp id fun hSh _ hl ↦ hcq hl ▸ hSh)
  unfold removeChild
  rw [hn]
  dsimp only
  split
  · next halive =>
    refine ⟨hk₁ _ (Or.inl .refl), hk₁ _ (Or.inr .top), fun m hm hdead ↦ ?_⟩
    rw [hn₀] at hm
    cases hm
    rw [hpid, hdead] at halive
    cases halive
  · next hdead =>
    have hdead₀ : alive n₀.pid = false := by rw [← hpid]; simpa using hdead
    have hswc : Swept g alive h c := .child .top hch hn₀ hdead₀
    have hw₁ : (G.update c fun n ↦ { n with parent := none }).Wf (h :: D) :=
      hw.clearParent fun hl ↦ by rw [hcq hl]; exact List.mem_cons_self
    have hs₁ : Shrinks g (G.update c fun n ↦ { n with parent := none }) :=
      hs.trans (shrinks_update (by intro; rfl) (by intro; right; rfl))
    have hidx : (G.update c fun n ↦ { n with parent := none }).index[n.pid]? = some c :=
      hw₁.arena.get_index (n := { n with parent := none }) (by rw [get?_update_self, hn]; rfl)
    have hp : n.pid ≠ rootPid := by
      intro hr
      have hcr : c = g.root := Option.some.inj
        ((hwg.arena.get_index hn₀).symm.trans (by rw [← hpid, hr]; exact hwg.arena.index_root))
      rw [Link, hcr, hwg.forest.root_up] at hch
      cases hch
    obtain ⟨hk₂, hgone⟩ := ih _ _ n.pid c hw₁ hidx hcD hp fun x k hx hk ↦ by
      have hk' := above_of_shrinks hs₁ hk
      have := hfuel x (k + 1) (Swept.of_shrinks hs₁ hswc hx) (by rw [above_succ', hk', Option.bind_some]; exact hch)
      omega
    refine ⟨(hk₁ _ (Or.inl .refl)).trans (hk₂.mono fun x hx ↦ ?_),
      (hk₁ _ (Or.inr .top)).trans (hk₂.mono fun x hx ↦ Swept.of_shrinks hs₁ hswc hx), fun m hm _ x hx ↦ hgone x ?_⟩
    · exact hx.reach.lift id fun _ _ hl ↦ hs₁.link_sub hl
    · induction hx with
      | top => exact .top
      | @child x' d m hx' hdx hd hddead ihx =>
        have hdc : ReflTransGen g.Link d c := hx'.reach.head hdx
        obtain ⟨m', hm', hmu, hml⟩ := hsub hd (not_not_intro hdc)
        have hxh : x' ≠ h := fun he ↦ not_above_child hacyc hch (he ▸ hx'.reach)
        have hdne : d ≠ c := by
          rintro rfl
          exact hacyc d (TransGen.head' hdx hx'.reach)
        refine .child ihx ?_ (by rw [get?_update_of_ne hdne]; exact hm') ?_
        · rw [Link, up_clearParent, if_neg hdne]
          exact hml x' hdx (not_not_intro (below_of_link hch hdc hdx hxh))
        · rw [show m'.pid = _ from (congrArg Node.pid hmu :)]
          exact hddead

theorem removeChildren_sweeps : ∀ (cs : List Handle) (G : Graph), cs.Nodup →
    (∀ c ∈ cs, c ∉ h :: D ∧ g.Link c h) → G.Wf (h :: D) → Shrinks g G →
    (∀ x, G.Link x h → x ∈ cs) →
    (∀ c ∈ cs, Keeps (fun x ↦ ¬ ReflTransGen g.Link x c) g G) →
    (∀ x k, Swept g alive h x → g.above k x = some h → k < fuel + 1) →
    (cs.foldl (removeChild alive fuel) G).Wf (h :: D) ∧ Shrinks G (cs.foldl (removeChild alive fuel) G) ∧
      Keeps (Swept g alive h) G (cs.foldl (removeChild alive fuel) G) ∧
      ∀ c ∈ cs, ∀ n, g.get? c = some n → alive n.pid = false → ∀ x, Swept g alive c x →
        (cs.foldl (removeChild alive fuel) G).get? x = none
  | [], G, _, _, hw, _, _, _, _ => ⟨hw, .refl, .refl, fun _ hc ↦ absurd hc List.not_mem_nil⟩
  | c :: cs, G, hnodup, hcs, hw, hs, hcov, hsub, hfuel => by
    have hacyc := hwg.forest.acyclic
    obtain ⟨hcD, hch⟩ := hcs c List.mem_cons_self
    obtain ⟨hkc, hkh, hgone⟩ := removeChild_sweeps ih hwg hw hs hch hcD (hsub c List.mem_cons_self) hfuel
    obtain ⟨hw', hs', hno, -⟩ := removeChild_spec (removeTree_spec alive fuel) hw (hs.eq_of_link hch) hcD
    have hcs' : c ∉ cs := (List.nodup_cons.mp hnodup).1
    have hsub' : ∀ c' ∈ cs, Keeps (fun x ↦ ¬ ReflTransGen g.Link x c') g (removeChild alive fuel G c) :=
      fun c' hc' ↦ (hsub c' (List.mem_cons_of_mem _ hc')).trans (hkc.mono fun _ hx ↦
        not_below_sibling hacyc hch (hcs c' (List.mem_cons_of_mem _ hc')).2 (ne_of_mem_of_not_mem hc' hcs').symm hx)
    obtain ⟨hw'', hs'', hk'', hgone''⟩ := removeChildren_sweeps cs _ (List.nodup_cons.mp hnodup).2
      (fun c' hc' ↦ hcs c' (List.mem_cons_of_mem _ hc')) hw' (hs.trans hs')
      (fun x hx ↦ (List.mem_cons.mp (hcov x (hs'.link_sub hx))).resolve_left fun he ↦ hno (he ▸ hx))
      hsub' hfuel
    simp only [List.foldl_cons]
    refine ⟨hw'', hs'.trans hs'', hkh.trans hk'', fun c' hc' m hm hdead x hx ↦ ?_⟩
    rcases List.mem_cons.mp hc' with he | hc'
    · rw [he] at hm hx
      cases hx' : (cs.foldl (removeChild alive fuel) (removeChild alive fuel G c)).get? x with
      | none => rfl
      | some _ =>
        have := hs''.live (by rw [hx']; rfl)
        rw [hgone m hm hdead x hx] at this
        cases this
    · exact hgone'' c' hc' m hm hdead x hx

end Loop

theorem removeTree_sweeps : ∀ (fuel : Nat) (G : Graph) (D : List Handle) (p : Pid) (c : Handle),
    G.Wf D → G.index[p]? = some c → c ∉ D → p ≠ rootPid →
    (∀ x k, Swept G alive c x → G.above k x = some c → k < fuel) →
    Keeps (Swept G alive c) G (removeTree alive fuel G p) ∧
      ∀ x, Swept G alive c x → (removeTree alive fuel G p).get? x = none
  | 0, _, _, _, c, _, _, _, _, hfuel => absurd (hfuel c 0 .top rfl) (Nat.lt_irrefl 0)
  | fuel + 1, g, D, p, h, hw, hi, hhD, hp, hfuel => by
    rw [removeTree_succ hp hi]
    have hacyc := hw.forest.acyclic
    obtain ⟨m, hm, hw₂, hs₂, hcs, hcov⟩ := hw.detach hi hhD
    have hk₂ : Keeps (· = h) g ((g.unlink h).update h fun n ↦ { n with children := [] }) :=
      (keeps_unlink (S := (· = h)) rfl).trans keeps_takeChildren
    have hlink : ∀ {x}, g.Link x h → ((g.unlink h).update h fun n ↦ { n with children := [] }).Link x h :=
      fun {x} hx ↦ by
        have hxh : x ≠ h := by
          rintro rfl
          exact hacyc x (.single hx)
        rw [Link, up_takeChildren, up_unlink, if_neg hxh]
        exact hx
    simp only [hm, Option.map_some, Option.getD_some]
    obtain ⟨hw₃, -, hk₃, hgone₃⟩ := removeChildren_sweeps (removeTree_sweeps fuel) hw m.children _
      (hw.unlink.forest.children_nodup hm)
      (fun c hc ↦ ⟨(hcs c hc).1, hs₂.link_sub (hcs c hc).2⟩) hw₂ hs₂ hcov
      (fun c hc ↦ hk₂.mono fun _ hx hx' ↦
        not_above_child hacyc (hs₂.link_sub (hcs c hc).2) (hx ▸ hx')) hfuel
    obtain ⟨n₃, hn₃⟩ := Option.isSome_iff_exists.mp (hw₃.forest.pending List.mem_cons_self).1
    refine ⟨(hk₂.mono fun x hx ↦ hx ▸ .top).trans (hk₃.trans (keeps_drop hn₃ .top)), fun x hx ↦ ?_⟩
    rw [get?_drop hn₃]
    split
    · rfl
    · rcases hx.cases_top with rfl | ⟨c, n', hch, hc, hdead, hcx⟩
      · contradiction
      · exact hgone₃ c (hcov c (hlink hch)) n' hc hdead x hcx

section Doomed

variable {r s : Pid}

theorem ParentEdge.unique (ha : g.ParentEdge r p) (hb : g.ParentEdge r q) : p = q :=
  Option.some.inj (ha.symm.trans hb)

variable (hw : g.Consistent)
include hw

theorem Consistent.not_childEdge_cycle : ¬ TransGen g.ChildEdge q q := by
  intro hq
  obtain ⟨x, y, hx, hy, hyx⟩ := hw.transGen_childEdge_iff.mp hq
  rw [hx] at hy
  cases hy
  exact hw.forest.acyclic x hyx

theorem Consistent.doomed_reach (hd : Doomed g alive p r) : ReflTransGen g.ChildEdge p r := by
  induction hd with
  | self => exact .refl
  | child _ hrq _ ih => exact ih.tail (hw.childEdge_iff_parentEdge.mpr hrq)

theorem Consistent.doomed_between (hd : Doomed g alive p r) (hs : ReflTransGen g.ChildEdge s r)
    (hps : TransGen g.ChildEdge p s) : Doomed g alive p s := by
  induction hd generalizing s with
  | self => exact absurd (hps.trans_left hs) hw.not_childEdge_cycle
  | @child q r hq hrq hdead ih =>
    rcases reflTransGen_iff_eq_or_transGen.mp hs with rfl | hsr
    · exact .child hq hrq hdead
    · obtain ⟨t, hst, htr⟩ := TransGen.tail'_iff.mp hsr
      obtain rfl := (hw.childEdge_iff_parentEdge.mp htr).unique hrq
      exact ih hst hps

theorem Consistent.doomed_iff (hi : g.index[p]? = some h) :
    Doomed g alive p q ↔ ∃ x, g.index[q]? = some x ∧ Swept g alive h x := by
  constructor
  · intro hd
    induction hd with
    | self => exact ⟨h, hi, .top⟩
    | child _ hrq hdead ih =>
      obtain ⟨x, hx, hsx⟩ := ih
      obtain ⟨y, x', hy, hx', hl⟩ := hw.parentEdge_iff.mp hrq
      rw [hx] at hx'
      cases hx'
      obtain ⟨m, hm, rfl⟩ := hw.arena.index_get hy
      exact ⟨y, hy, .child hsx hl hm hdead⟩
  · rintro ⟨x, hx, hsx⟩
    induction hsx generalizing q with
    | top =>
      rw [hw.arena.pid_eq_of_index hx hi]
      exact .self
    | @child x' c m _ hcx hc hdead ih =>
      obtain ⟨m', hm'⟩ := Option.isSome_iff_exists.mp (hw.forest.parent_live hcx)
      obtain rfl := hw.arena.pid_eq_of_index hx (hw.arena.get_index hc)
      exact .child (ih (hw.arena.get_index hm'))
        (hw.parentEdge_iff.mpr ⟨c, x', hx, hw.arena.get_index hm', hcx⟩) hdead

theorem Consistent.not_swept (hi : g.index[p]? = some h) (hd : ¬ Doomed g alive p q)
    (hx : g.index[q]? = some x) : ¬ Swept g alive h x :=
  fun hsx ↦ hd ((hw.doomed_iff hi).mpr ⟨x, hx, hsx⟩)

theorem Consistent.index_of_remove (hq : (g.remove p alive).1.index[q]? = some y) : g.index[q]? = some y :=
  (hw.remove alive).2.index_sub hw.arena (hw.remove alive).1.arena hq

end Doomed

theorem Consistent.childrenOf_sorted (hw : g.Consistent) : (g.childrenOf q).Pairwise (· < ·) := by
  cases hx : g.index[q]? with
  | none =>
    rw [childrenOf_of_none hx]
    exact List.Pairwise.nil
  | some x =>
    obtain ⟨n, hn, -⟩ := hw.arena.index_get hx
    rw [childrenOf_of_node hx hn]
    have hnodup : (n.children.filterMap g.pidOf).Nodup :=
      (hw.forest.children_nodup hn).filterMap fun a a' r ha ha' ↦
        Option.some.inj ((hw.pidOf_iff.mp ha).symm.trans (hw.pidOf_iff.mp ha'))
    have hle := List.pairwise_mergeSort' (· ≤ ·) (n.children.filterMap g.pidOf)
    have hnd := (List.mergeSort_perm (n.children.filterMap g.pidOf) fun a b : Pid ↦ decide (a ≤ b)).nodup_iff.mpr hnodup
    exact (hle.and hnd).imp fun ⟨hab, hne⟩ ↦ lt_of_le_of_ne hab hne

section Removed

variable (hw : g.Consistent) (hp : p ≠ rootPid) (hi : g.index[p]? = some h)
include hw hp hi

theorem Consistent.remove_sweeps (alive : Pid → Bool) :
    g.remove p alive = (removeTree alive g.size g p, true) ∧
      Keeps (Swept g alive h) g (g.remove p alive).1 ∧
      ∀ x, Swept g alive h x → (g.remove p alive).1.get? x = none := by
  have hc : g.contains p = true := contains_of_index hi
  have heq : g.remove p alive = (removeTree alive g.size g p, true) := by
    simp [Graph.remove, hp, hc]
  obtain ⟨n, hn, hnp⟩ := hw.arena.index_get hi
  have hhr : h ≠ g.root := hw.arena.ne_root hn (hnp ▸ hp)
  rw [heq]
  exact ⟨rfl, removeTree_sweeps g.size g [] p h hw hi List.not_mem_nil hp fun x k _ hk ↦ by
    have := hw.above_lt_size (by simp [hn]) hhr hk
    omega⟩

theorem Consistent.index_remove_swept (hx : g.index[q]? = some x) (hsx : Swept g alive h x) :
    (g.remove p alive).1.index[q]? = none := by
  obtain ⟨-, -, hgone⟩ := hw.remove_sweeps hp hi alive
  cases hq : (g.remove p alive).1.index[q]? with
  | none => rfl
  | some y =>
    have hy : y = x := Option.some.inj ((hw.index_of_remove hq).symm.trans hx)
    obtain ⟨n', hn', -⟩ := (hw.remove alive (p := p)).1.arena.index_get hq
    rw [hy, hgone x hsx] at hn'
    cases hn'

theorem Consistent.index_remove_kept (hx : g.index[q]? = some x) (hsx : ¬ Swept g alive h x) :
    (g.remove p alive).1.index[q]? = some x := by
  obtain ⟨-, hk, -⟩ := hw.remove_sweeps hp hi alive
  obtain ⟨hw', -⟩ := hw.remove alive (p := p)
  obtain ⟨n, hn, rfl⟩ := hw.arena.index_get hx
  obtain ⟨n', hn', hu, -⟩ := hk hn hsx
  rw [← show n'.pid = n.pid from (congrArg Node.pid hu :)]
  exact hw'.arena.get_index hn'

theorem Consistent.link_remove_iff :
    (g.remove p alive).1.Link x y ↔ g.Link x y ∧ ¬ Swept g alive h x ∧ ¬ Swept g alive h y := by
  obtain ⟨-, hk, hgone⟩ := hw.remove_sweeps hp hi alive
  obtain ⟨hw', hs⟩ := hw.remove alive (p := p)
  constructor
  · intro hl
    refine ⟨hs.link_sub hl, fun hsx ↦ ?_, fun hsy ↦ ?_⟩
    · have := live_of_link hl
      rw [hgone x hsx] at this
      cases this
    · have := hw'.forest.parent_live hl
      rw [hgone y hsy] at this
      cases this
  · rintro ⟨hl, hsx, hsy⟩
    obtain ⟨n, hn⟩ := Option.isSome_iff_exists.mp (live_of_link hl)
    obtain ⟨-, -, -, hl'⟩ := hk hn hsx
    exact hl' y hl hsy

theorem Consistent.index_remove_doomed (hd : Doomed g alive p q) : (g.remove p alive).1.index[q]? = none := by
  obtain ⟨x, hx, hsx⟩ := (hw.doomed_iff hi).mp hd
  exact hw.index_remove_swept hp hi hx hsx

theorem Consistent.index_remove_of_not_doomed (hd : ¬ Doomed g alive p q) :
    (g.remove p alive).1.index[q]? = g.index[q]? := by
  cases hx : g.index[q]? with
  | none =>
    cases hq : (g.remove p alive).1.index[q]? with
    | none => rfl
    | some y =>
      rw [hw.index_of_remove hq] at hx
      cases hx
  | some x => exact hw.index_remove_kept hp hi hx (hw.not_swept hi hd hx)

theorem Consistent.parentEdge_remove_iff {a b : Pid} :
    (g.remove p alive).1.ParentEdge a b ↔ g.ParentEdge a b ∧ ¬ Doomed g alive p a ∧ ¬ Doomed g alive p b := by
  rw [(hw.remove alive).1.parentEdge_iff, hw.parentEdge_iff]
  constructor
  · rintro ⟨x, y, hx, hy, hl⟩
    obtain ⟨hl, -, -⟩ := (hw.link_remove_iff hp hi).mp hl
    refine ⟨⟨x, y, hw.index_of_remove hx, hw.index_of_remove hy, hl⟩,
      fun hd ↦ ?_, fun hd ↦ ?_⟩
    · rw [hw.index_remove_doomed hp hi hd] at hx
      cases hx
    · rw [hw.index_remove_doomed hp hi hd] at hy
      cases hy
  · rintro ⟨⟨x, y, hx, hy, hl⟩, hda, hdb⟩
    have hsx := hw.not_swept hi hda hx
    have hsy := hw.not_swept hi hdb hy
    exact ⟨x, y, hw.index_remove_kept hp hi hx hsx, hw.index_remove_kept hp hi hy hsy,
      (hw.link_remove_iff hp hi).mpr ⟨hl, hsx, hsy⟩⟩

theorem Consistent.find?_remove (hd : ¬ Doomed g alive p q) :
    ((g.remove p alive).1.find? q).map Node.unlinked = (g.find? q).map Node.unlinked := by
  cases hx : g.index[q]? with
  | none => simp only [find?, hw.index_remove_of_not_doomed hp hi hd, hx, Option.bind_none]
  | some x =>
    have hsx := hw.not_swept hi hd hx
    obtain ⟨n, hn, -⟩ := hw.arena.index_get hx
    obtain ⟨-, hk, -⟩ := hw.remove_sweeps hp hi alive
    obtain ⟨n', hn', hu, -⟩ := hk hn hsx
    simp only [find?, hw.index_remove_kept hp hi hx hsx, hx, Option.bind_some, hn, hn', Option.map_some, hu]

theorem Consistent.childrenOf_remove (hd : ¬ Doomed g alive p q) :
    (g.remove p alive).1.childrenOf q = (g.childrenOf q).erase p := by
  obtain ⟨hw', -⟩ := hw.remove alive (p := p)
  have hnodup : (g.childrenOf q).Nodup := hw.childrenOf_sorted.imp ne_of_lt
  refine hw'.childrenOf_sorted.eq_of_mem_iff (hw.childrenOf_sorted.sublist (List.erase_sublist ..))
    fun r ↦ ?_
  rw [hnodup.mem_erase_iff]
  change (g.remove p alive).1.ChildEdge q r ↔ r ≠ p ∧ g.ChildEdge q r
  rw [hw'.childEdge_iff_parentEdge, hw.childEdge_iff_parentEdge, hw.parentEdge_remove_iff hp hi]
  constructor
  · rintro ⟨hrq, hdr, -⟩
    exact ⟨fun he ↦ hdr (he ▸ .self), hrq⟩
  · rintro ⟨hrp, hrq⟩
    refine ⟨hrq, fun hdr ↦ ?_, hd⟩
    cases hdr with
    | self => exact hrp rfl
    | child hq' hrq' _ => exact hd ((hrq'.unique hrq) ▸ hq')

theorem Consistent.parentOf_remove_of_doomed {r : Pid} (hr : g.ParentEdge q r)
    (hdr : Doomed g alive p r) : (g.remove p alive).1.parentOf q = none := by
  cases h' : (g.remove p alive).1.parentOf q with
  | none => rfl
  | some r' =>
    obtain ⟨hqr', -, hdr'⟩ := (hw.parentEdge_remove_iff hp hi).mp h'
    exact absurd ((hr.unique hqr') ▸ hdr) hdr'

theorem Consistent.parentOf_remove_of_kept (hd : ¬ Doomed g alive p q)
    (hkeep : ∀ r, g.ParentEdge q r → ¬ Doomed g alive p r) :
    (g.remove p alive).1.parentOf q = g.parentOf q := by
  cases h₀ : g.parentOf q with
  | none =>
    cases h' : (g.remove p alive).1.parentOf q with
    | none => rfl
    | some r' =>
      obtain ⟨hqr', -⟩ := (hw.parentEdge_remove_iff hp hi).mp h'
      rw [ParentEdge, h₀] at hqr'
      cases hqr'
  | some r => exact (hw.parentEdge_remove_iff hp hi).mpr ⟨h₀, hd, hkeep r h₀⟩

theorem Consistent.descendants_remove (hd : ¬ Doomed g alive p q) {r : Pid} (hr : g.ParentEdge q r)
    (hdr : Doomed g alive p r) : (g.remove p alive).1.descendants q = g.descendants q := by
  obtain ⟨hw', -⟩ := hw.remove alive (p := p)
  have hpq : TransGen g.ChildEdge p q := TransGen.tail' (hw.doomed_reach hdr) (hw.childEdge_iff_parentEdge.mpr hr)
  have hbelow : ∀ s, ReflTransGen g.ChildEdge q s → ¬ Doomed g alive p s :=
    fun s hs hds ↦ hd (hw.doomed_between hds hs hpq)
  refine hw.descendants_eq_of hw' (fun s hs ↦ ?_) fun s hs ↦ ?_
  · rw [hw.childrenOf_remove hp hi (hbelow s hs), List.erase_of_not_mem]
    exact fun hps ↦ hw.not_childEdge_cycle ((hpq.trans_left hs).tail hps)
  · exact (name_origin_of_unlinked (hw.find?_remove hp hi (hbelow s hs.to_reflTransGen))).1

theorem Consistent.slot_remove (hd : Doomed g alive p q) (hx : g.index[q]? = some x) :
    (g.remove p alive).1.slots[x.index]? = some ⟨x.generation + 1, none⟩ ∧
      x.index ∈ (g.remove p alive).1.free := by
  obtain ⟨-, -, hgone⟩ := hw.remove_sweeps hp hi alive
  obtain ⟨hw', hs⟩ := hw.remove alive (p := p)
  obtain ⟨x', hx', hsx⟩ := (hw.doomed_iff hi).mp hd
  rw [hx] at hx'
  cases hx'
  obtain ⟨n, hn, -⟩ := hw.arena.index_get hx
  obtain ⟨s, hs₀, hgen, hnode⟩ := get?_eq_some_iff.mp hn
  have hrel := hs.slots x.index
  rw [hs₀] at hrel
  generalize hs' : (g.remove p alive).1.slots[x.index]? = o at hrel
  cases hrel with
  | some hstep =>
    rename_i s'
    rcases hstep with ⟨hgen', hlive⟩ | ⟨hgen', -, hnode'⟩
    · obtain ⟨n', hn'⟩ := Option.isSome_iff_exists.mp (by rw [hlive, hnode]; rfl : s'.node.isSome)
      have := get?_eq_some_iff.mpr ⟨s', hs', hgen'.trans hgen, hn'⟩
      rw [hgone x hsx] at this
      cases this
    · refine ⟨by rw [← hgen, ← hgen', ← hnode'], hw'.arena.empty_free ⟨s', hs', hnode'⟩⟩

end Removed

/-- What removing `p` does, exactly. For the root, or a pid the graph does not track, nothing,
and the removal reports failure. Otherwise it reports success; every doomed pid (`p`, and each
pid below a doomed one whose process is gone) leaves the index, its slot emptied at the next
generation and stacked as free; every other pid keeps its handle, name and origin, and its
children but `p`, which only `p`'s parent listed; a live pid below a doomed one loses its parent
and keeps its whole subtree; and every other pid keeps its parent. -/
theorem Consistent.remove_exact (hw : g.Consistent) (p : Pid) (alive : Pid → Bool) :
    ((p = rootPid ∨ g.contains p = false) → g.remove p alive = (g, false)) ∧
    (p ≠ rootPid → g.contains p = true →
      (g.remove p alive).2 = true ∧
      (∀ q, Doomed g alive p q → (g.remove p alive).1.contains q = false ∧
        ∀ x, g.handleOf q = some x →
          (g.remove p alive).1.slots[x.index]? = some ⟨x.generation + 1, none⟩ ∧
          x.index ∈ (g.remove p alive).1.free) ∧
      (∀ q, ¬ Doomed g alive p q →
        (g.remove p alive).1.handleOf q = g.handleOf q ∧
        (g.remove p alive).1.nameOf q = g.nameOf q ∧
        ((g.remove p alive).1.find? q).map (·.origin) = (g.find? q).map (·.origin) ∧
        (g.remove p alive).1.childrenOf q = (g.childrenOf q).erase p) ∧
      (∀ q, ¬ Doomed g alive p q → alive q = true → (∃ r, g.ParentEdge q r ∧ Doomed g alive p r) →
        (g.remove p alive).1.parentOf q = none ∧ (g.remove p alive).1.descendants q = g.descendants q) ∧
      (∀ q, ¬ Doomed g alive p q → ¬ (alive q = true ∧ ∃ r, g.ParentEdge q r ∧ Doomed g alive p r) →
        (g.remove p alive).1.parentOf q = g.parentOf q)) := by
  refine ⟨fun hfail ↦ ?_, fun hp hc ↦ ?_⟩
  · rcases hfail with rfl | hc
    · simp [Graph.remove]
    · simp [Graph.remove, hc]
  obtain ⟨h, hi⟩ := exists_index_of_contains hc
  obtain ⟨heq, -, -⟩ := hw.remove_sweeps hp hi alive
  refine ⟨by rw [heq], fun q hd ↦ ⟨?_, fun x hx ↦ hw.slot_remove hp hi hd hx⟩, fun q hd ↦ ?_,
    fun q hd _ ⟨r, hr, hdr⟩ ↦ ⟨hw.parentOf_remove_of_doomed hp hi hr hdr, hw.descendants_remove hp hi hd hr hdr⟩,
    fun q hd hfree ↦ hw.parentOf_remove_of_kept hp hi hd fun r hr hdr ↦ ?_⟩
  · exact contains_eq_false (hw.index_remove_doomed hp hi hd)
  · obtain ⟨hname, horigin⟩ := name_origin_of_unlinked (hw.find?_remove hp hi hd)
    exact ⟨hw.index_remove_of_not_doomed hp hi hd, hname, horigin, hw.childrenOf_remove hp hi hd⟩
  · cases hq : alive q with
    | true => exact hfree ⟨hq, r, hr, hdr⟩
    | false => exact hd (.child hdr hr hq)

theorem remove_exact_cascade :
    let g := run [.upsert ⟨2, 1, "b"⟩, .upsert ⟨3, 2, "c"⟩]
    let p : Pid := 1
    let alive : Pid → Bool := fun q ↦ q == 3
    g.Consistent ∧
    ((p = rootPid ∨ g.contains p = false) → g.remove p alive = (g, false)) ∧
    (p ≠ rootPid → g.contains p = true →
      (g.remove p alive).2 = true ∧
      (∀ q, Doomed g alive p q → (g.remove p alive).1.contains q = false ∧
        ∀ x, g.handleOf q = some x →
          (g.remove p alive).1.slots[x.index]? = some ⟨x.generation + 1, none⟩ ∧
          x.index ∈ (g.remove p alive).1.free) ∧
      (∀ q, ¬ Doomed g alive p q →
        (g.remove p alive).1.handleOf q = g.handleOf q ∧
        (g.remove p alive).1.nameOf q = g.nameOf q ∧
        ((g.remove p alive).1.find? q).map (·.origin) = (g.find? q).map (·.origin) ∧
        (g.remove p alive).1.childrenOf q = (g.childrenOf q).erase p) ∧
      (∀ q, ¬ Doomed g alive p q → alive q = true → (∃ r, g.ParentEdge q r ∧ Doomed g alive p r) →
        (g.remove p alive).1.parentOf q = none ∧ (g.remove p alive).1.descendants q = g.descendants q) ∧
      (∀ q, ¬ Doomed g alive p q → ¬ (alive q = true ∧ ∃ r, g.ParentEdge q r ∧ Doomed g alive p r) →
        (g.remove p alive).1.parentOf q = g.parentOf q)) :=
  ⟨(reachable_run _).consistent, (reachable_run _).consistent.remove_exact _ _⟩

end KeystrokeTally.Proc.Graph
