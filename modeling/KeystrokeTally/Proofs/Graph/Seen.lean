import KeystrokeTally.Proofs.Graph.Handles

namespace KeystrokeTally.Proc.Graph

open Relation

variable {g g' g'' : Graph} {x y h : Handle} {p : Pid} {n : Node}

def SeenNow (g : Graph) (x : Handle) : Prop := ∃ n, g.get? x = some n ∧ n.seen = g.epoch

def SeenUp (g : Graph) (x : Handle) : Prop := ∀ y, ReflTransGen g.Link x y → SeenNow g y

/-- `g'` is in the same pass as `g` and keeps every stamp of it. -/
structure KeepsSeen (g g' : Graph) : Prop where
  epoch_eq : g'.epoch = g.epoch
  seen : ∀ {x}, SeenNow g x → SeenNow g' x

namespace KeepsSeen

theorem refl : KeepsSeen g g := ⟨rfl, id⟩

theorem trans (h₁ : KeepsSeen g g') (h₂ : KeepsSeen g' g'') : KeepsSeen g g'' :=
  ⟨h₂.epoch_eq.trans h₁.epoch_eq, fun hx ↦ h₂.seen (h₁.seen hx)⟩

end KeepsSeen

theorem keepsSeen_update {f : Node → Node} (hf : ∀ n, n.seen = g.epoch → (f n).seen = g.epoch) :
    KeepsSeen g (g.update h f) := by
  refine ⟨update_epoch, ?_⟩
  rintro x ⟨n, hn, hs⟩
  unfold SeenNow
  rw [update_epoch, get?_update]
  split
  · subst x
    exact ⟨f n, by rw [hn]; rfl, hf n hs⟩
  · exact ⟨n, hn, hs⟩

theorem keepsSeen_unlink : KeepsSeen g (g.unlink x) := by
  unfold unlink
  split
  · exact .refl
  · rename_i n _
    have h₁ : KeepsSeen g (g.update x fun n ↦ { n with parent := none }) := keepsSeen_update fun _ h ↦ h
    cases n.parent with
    | none => exact h₁
    | some q => exact h₁.trans (keepsSeen_update fun _ h ↦ h)

theorem keepsSeen_link : KeepsSeen g (g.link y x) :=
  (keepsSeen_update fun _ h ↦ by split <;> exact h).trans (keepsSeen_update fun _ h ↦ h)

theorem keepsSeen_attach : KeepsSeen g (g.attach x y) := by
  unfold attach
  generalize (if g.isAncestor x y then g.root else y) = t
  dsimp only
  split
  · exact .refl
  · exact keepsSeen_unlink.trans keepsSeen_link

theorem Consistent.seen_touch (hw : g.Consistent) (name : String) (origin : Origin) :
    KeepsSeen g (g.touch p name origin).1 ∧ SeenNow (g.touch p name origin).1 (g.touch p name origin).2 := by
  cases hi : g.index[p]? with
  | some h₀ =>
    rw [touch_of_some hi]
    obtain ⟨m, hm, -⟩ := hw.arena.index_get hi
    exact ⟨keepsSeen_update fun _ _ ↦ rfl, ⟨_, by rw [get?_update_self, hm]; rfl, rfl⟩⟩
  | none =>
    rw [touch_of_none hi]
    have hfree : g.FreeEmpty := hw.arena.free_empty
    refine ⟨⟨alloc_epoch, ?_⟩, ⟨_, by rw [get?_insertNew hfree, if_pos rfl], alloc_epoch.symm⟩⟩
    rintro x ⟨m, hm, hs⟩
    have hne : x ≠ (g.alloc ⟨p, name, origin, none, [], g.epoch⟩).2 := by
      rintro rfl
      rw [get?_alloc_handle hfree] at hm
      cases hm
    exact ⟨m, by rw [get?_insertNew hfree, if_neg hne, hm], hs.trans alloc_epoch.symm⟩

section Upsert

variable {lookup : Pid → Option Entry}

theorem seen_upsertWith (hlookup : ∀ q pe, lookup q = some pe → pe.pid = q) :
    ∀ (fuel : Nat) (g : Graph) (notes : Array Note) (e : Entry) (origin : Origin), g.Consistent →
      KeepsSeen g (upsertWith lookup fuel (g, notes) e origin).1.1 ∧
        SeenNow (upsertWith lookup fuel (g, notes) e origin).1.1 (upsertWith lookup fuel (g, notes) e origin).2
  | fuel, g, notes, e, origin, hw => by
    by_cases he : e.pid = rootPid
    · rw [upsertWith_root he]
      obtain ⟨m, hm⟩ := Option.isSome_iff_exists.mp hw.root_live
      exact ⟨keepsSeen_update fun _ _ ↦ rfl, ⟨_, by rw [get?_update_self, hm]; rfl, rfl⟩⟩
    rw [upsertWith.eq_1]
    simp only [beq_iff_eq, he, if_false]
    have ht := hw.seen_touch (p := e.pid) e.name origin
    have hg := hw.grown_touch he e.name origin
    rcases htouch : g.touch e.pid e.name origin with ⟨g₁, h₁⟩
    rw [htouch] at ht hg
    obtain ⟨hk₁, hs₁⟩ := ht
    have hrest : ∀ (G : Graph) (t : Handle), KeepsSeen g₁ G →
        KeepsSeen g (G.attach h₁ t) ∧ SeenNow (G.attach h₁ t) h₁ :=
      fun G t hG ↦ ⟨hk₁.trans (hG.trans keepsSeen_attach), (hG.trans keepsSeen_attach).seen hs₁⟩
    cases fuel with
    | zero => exact hrest g₁ g₁.root .refl
    | succ k =>
      dsimp only
      cases hp : g₁.index[e.parent]? with
      | some ph => exact hrest g₁ ph .refl
      | none =>
        cases hl : lookup e.parent with
        | some pe => exact hrest _ _ (seen_upsertWith hlookup k g₁ notes pe .observed hg.consistent).1
        | none => exact hrest _ _ (seen_upsertWith hlookup k g₁ _ _ .placeholder hg.consistent).1

theorem seen_upsertFold (hlookup : ∀ q pe, lookup q = some pe → pe.pid = q) (es : List Entry) :
    ∀ (acc : Graph × Array Note), acc.1.Consistent →
      KeepsSeen acc.1 (es.foldl (fun acc e ↦ (upsertWith lookup chaseLimit acc e .observed).1) acc).1 ∧
      ∀ e ∈ es, ∃ h, (es.foldl (fun acc e ↦ (upsertWith lookup chaseLimit acc e .observed).1) acc).1.index[e.pid]? =
        some h ∧ SeenNow (es.foldl (fun acc e ↦ (upsertWith lookup chaseLimit acc e .observed).1) acc).1 h := by
  induction es with
  | nil => exact fun _ _ ↦ ⟨.refl, fun _ he ↦ absurd he List.not_mem_nil⟩
  | cons e es ih =>
    rintro ⟨g, notes⟩ hw
    have hi := inserted_upsertWith hlookup chaseLimit g notes e .observed hw
    obtain ⟨hk, hs⟩ := seen_upsertWith hlookup chaseLimit g notes e .observed hw
    obtain ⟨hk', hes⟩ := ih _ hi.consistent
    have hkept := kept_upsertFold hlookup es _ hi.consistent
    refine ⟨hk.trans hk', fun e' he' ↦ ?_⟩
    rcases List.mem_cons.mp he' with rfl | he'
    · exact ⟨_, hkept.index_mono hi.index_self, hk'.seen hs⟩
    · exact hes e' he'

end Upsert

theorem ArenaWf.card_liveSet_le (ha : g.ArenaWf) : g.liveSet.card ≤ g.size := by
  let pidAt : Handle → Pid := fun x ↦ ((g.get? x).map (·.pid)).getD 0
  have hmaps : Set.MapsTo pidAt g.liveSet g.index.keys.toFinset := by
    intro x hx
    obtain ⟨n, hn⟩ := Option.isSome_iff_exists.mp (mem_liveSet.mp hx)
    have hidx := ha.get_index hn
    simp only [pidAt, hn, Option.map_some, Option.getD_some, Finset.mem_coe, List.mem_toFinset]
    exact Std.TreeMap.mem_keys.mpr (Std.TreeMap.mem_iff_isSome_getElem?.mpr (by simp [hidx]))
  have hinj : Set.InjOn pidAt g.liveSet := by
    intro x hx y hy hxy
    obtain ⟨n, hn⟩ := Option.isSome_iff_exists.mp (mem_liveSet.mp hx)
    obtain ⟨m, hm⟩ := Option.isSome_iff_exists.mp (mem_liveSet.mp hy)
    have hnm : n.pid = m.pid := by simpa [pidAt, hn, hm] using hxy
    have hidx := ha.get_index hn
    rw [hnm, ha.get_index hm] at hidx
    exact (Option.some.inj hidx).symm
  calc g.liveSet.card
      ≤ g.index.keys.toFinset.card := Finset.card_le_card_of_injOn pidAt hmaps hinj
    _ ≤ g.index.keys.length := List.toFinset_card_le _
    _ = g.size := Std.TreeMap.length_keys

/-- A stamping walk from `g` that goes to `next`: every marked live node is stamped, and its
parent is marked or is `next`. -/
def MarksClosed (g G : Graph) (marked : Std.HashSet Handle) (next : Option Handle) : Prop :=
  ∀ h ∈ marked, (g.get? h).isSome → SeenNow G h ∧ ∀ y, g.up h = some y → y ∈ marked ∨ next = some y

section Marks

variable {G G' : Graph} {marked : Std.HashSet Handle} {next : Option Handle}

theorem MarksClosed.retarget {next' : Option Handle} (hc : MarksClosed g G marked next)
    (hnext : ∀ y, next = some y → y ∈ marked ∨ next' = some y) : MarksClosed g G marked next' := by
  intro h hm hlive
  obtain ⟨hs, hup⟩ := hc h hm hlive
  refine ⟨hs, fun y hy ↦ ?_⟩
  rcases hup y hy with hy | hy
  · exact Or.inl hy
  · exact hnext y hy

theorem MarksClosed.insert (hc : MarksClosed g G marked (some h)) (hk : KeepsSeen G G')
    (hh : (g.get? h).isSome → SeenNow G' h ∧ ∀ y, g.up h = some y → next = some y) :
    MarksClosed g G' (marked.insert h) next := by
  intro h' hm hl
  rcases Std.HashSet.mem_insert.mp hm with he | hm
  · obtain rfl : h = h' := beq_iff_eq.mp he
    obtain ⟨hs, hup⟩ := hh hl
    exact ⟨hs, fun y hy ↦ Or.inr (hup y hy)⟩
  · obtain ⟨hs, hup⟩ := hc h' hm hl
    refine ⟨hk.seen hs, fun y hy ↦ Or.inl ?_⟩
    rcases hup y hy with hy | hy
    · exact Std.HashSet.mem_insert.mpr (Or.inr hy)
    · cases hy
      exact Std.HashSet.mem_insert_self

end Marks

theorem markUp_closed {fuel : Nat} {acc : Graph × Std.HashSet Handle} {oh : Option Handle}
    (hr : Restamped g acc.1) (hk : KeepsSeen g acc.1) (hfuel : g.unvisited acc.2 < fuel)
    (hc : MarksClosed g acc.1 acc.2 oh) :
    KeepsSeen g (markUp g.epoch fuel acc oh).1 ∧
      MarksClosed g (markUp g.epoch fuel acc oh).1 (markUp g.epoch fuel acc oh).2 none ∧
      (∀ y, oh = some y → y ∈ (markUp g.epoch fuel acc oh).2) ∧
      ∀ y ∈ acc.2, y ∈ (markUp g.epoch fuel acc oh).2 := by
  fun_induction Graph.markUp g.epoch fuel acc oh with
  | case1 => exact absurd hfuel (Nat.not_lt_zero _)
  | case2 => exact ⟨hk, hc, fun _ h ↦ (by cases h), fun _ h ↦ h⟩
  | case3 fuel G marked h hcon =>
    dsimp only at hk hc ⊢
    have hmem : h ∈ marked := Std.HashSet.mem_iff_contains.mpr hcon
    exact ⟨hk, hc.retarget fun y hy ↦ by cases hy; exact Or.inl hmem, fun y hy ↦ by cases hy; exact hmem,
      fun _ hy ↦ hy⟩
  | case4 fuel G marked h hcon _ n hn ih =>
    dsimp only at hr hk hfuel hc ⊢
    have hlive : (g.get? h).isSome := by rw [← hr.nodes.live_iff, hn]; rfl
    have hnot : h ∉ marked := fun hm ↦ hcon (Std.HashSet.mem_iff_contains.mp hm)
    have hk₁ : KeepsSeen G (G.update h fun n ↦ { n with seen := g.epoch }) :=
      keepsSeen_update fun _ _ ↦ hk.epoch_eq.symm
    have hfuel' : g.unvisited (marked.insert h) < fuel := by
      have := unvisited_insert_live hlive hnot
      omega
    have hc' := hc.insert hk₁ fun _ ↦
      ⟨⟨_, by rw [get?_update_self, hn]; rfl, by rw [update_epoch, hk.epoch_eq]⟩, fun y hy ↦ by
        rwa [← hr.up_eq, up, hn, Option.bind_some] at hy⟩
    obtain ⟨hk', hc'', -, hmono⟩ := ih (hr.stamp h g.epoch) (hk.trans hk₁) hfuel' hc'
    refine ⟨hk', hc'', fun y hy ↦ ?_, fun y hy ↦ hmono y (Std.HashSet.mem_insert.mpr (Or.inr hy))⟩
    cases hy
    exact hmono h Std.HashSet.mem_insert_self
  | case5 fuel G marked h hcon _ hn =>
    dsimp only at hr hk hc ⊢
    have hdead : (g.get? h).isSome = false := by rw [← hr.nodes.live_iff, hn]; rfl
    refine ⟨hk, hc.insert .refl fun hl ↦ absurd hl (by rw [hdead]; decide), fun y hy ↦ ?_,
      fun y hy ↦ Std.HashSet.mem_insert.mpr (Or.inr hy)⟩
    cases hy
    exact Std.HashSet.mem_insert_self

/-- The state of the stamping pass between two walks. -/
structure Stamping (g : Graph) (acc : Graph × Std.HashSet Handle) : Prop where
  restamped : Restamped g acc.1
  keeps : KeepsSeen g acc.1
  closed : MarksClosed g acc.1 acc.2 none

section Stamp

variable (hw : g.Consistent)
include hw

theorem stamping_foldl : ∀ (hs : List Handle) (acc : Graph × Std.HashSet Handle), Stamping g acc →
    Stamping g (hs.foldl (fun acc h ↦ markUp g.epoch (g.size + 1) acc (acc.1.up h)) acc) ∧
      (∀ y ∈ acc.2, y ∈ (hs.foldl (fun acc h ↦ markUp g.epoch (g.size + 1) acc (acc.1.up h)) acc).2) ∧
      ∀ h ∈ hs, ∀ y, g.up h = some y →
        y ∈ (hs.foldl (fun acc h ↦ markUp g.epoch (g.size + 1) acc (acc.1.up h)) acc).2
  | [], acc, hst => ⟨hst, fun _ hy ↦ hy, fun _ h ↦ absurd h List.not_mem_nil⟩
  | h :: hs, acc, hst => by
    have hfuel : g.unvisited acc.2 < g.size + 1 :=
      Nat.lt_succ_of_le ((Finset.card_filter_le _ _).trans hw.arena.card_liveSet_le)
    obtain ⟨hk₁, hc₁, hoh, hmono₁⟩ :=
      markUp_closed hst.restamped hst.keeps hfuel (hst.closed.retarget fun _ h ↦ by cases h)
    obtain ⟨hst', hmono', hup'⟩ := stamping_foldl hs _ ⟨hst.restamped.markUp, hk₁, hc₁⟩
    refine ⟨hst', fun y hy ↦ hmono' y (hmono₁ y hy), fun h' hh' y hy ↦ ?_⟩
    rcases List.mem_cons.mp hh' with rfl | hh'
    · exact hmono' y (hoh y (by rw [hst.restamped.up_eq]; exact hy))
    · exact hup' h' hh' y hy

theorem seenUp_foldl (hs : List Handle) (hcov : ∀ x, SeenNow g x → x ∈ hs) :
    KeepsSeen g (hs.foldl (fun acc h ↦ markUp g.epoch (g.size + 1) acc (acc.1.up h)) (g, ∅)).1 ∧
      ∀ x, SeenNow g x →
        SeenUp (hs.foldl (fun acc h ↦ markUp g.epoch (g.size + 1) acc (acc.1.up h)) (g, ∅)).1 x := by
  obtain ⟨hst, -, hup⟩ := stamping_foldl hw hs (g, ∅)
    ⟨.refl hw, .refl, fun _ hm ↦ absurd hm Std.HashSet.not_mem_empty⟩
  generalize hs.foldl (fun acc h ↦ markUp g.epoch (g.size + 1) acc (acc.1.up h)) (g, ∅) = r at hst hup ⊢
  refine ⟨hst.keeps, fun x hx y hy ↦ ?_⟩
  have hy' : ReflTransGen g.Link x y := ReflTransGen.mono (fun a b hab ↦ by
    unfold Link at hab ⊢
    rwa [hst.restamped.up_eq] at hab) _ _ hy
  suffices hchain : ∀ z, ReflTransGen g.Link x z → SeenNow r.1 z ∧ ∀ w, g.up z = some w → w ∈ r.2 from
    (hchain y hy').1
  intro z hz
  induction hz with
  | refl => exact ⟨hst.keeps.seen hx, hup x (hcov x hx)⟩
  | tail _ hzw ih =>
    obtain ⟨hs, hup'⟩ := hst.closed _ (ih.2 _ hzw) (hw.forest.parent_live hzw)
    exact ⟨hs, fun w hw' ↦ (hup' w hw').resolve_right (by simp)⟩

theorem Consistent.seen_stampAncestors :
    KeepsSeen g g.stampAncestors ∧ ∀ x, SeenNow g x → SeenUp g.stampAncestors x := by
  unfold stampAncestors
  dsimp only
  refine seenUp_foldl hw _ fun x ⟨n, hn, hs⟩ ↦ List.mem_filterMap.mpr ⟨(n.pid, x), ?_, ?_⟩
  · exact Std.TreeMap.mem_toList_iff_getElem?_eq_some.mpr (hw.arena.get_index hn)
  · simp [hn, hs]

theorem Consistent.refresh_seenUp (es : List Entry) :
    ∀ e ∈ es, ∃ h, (g.refresh es).1.index[e.pid]? = some h ∧ SeenUp (g.refresh es).1 h := by
  have hlookup : ∀ (q : Pid) (pe : Entry), (batchIndex es)[q]? = some pe → pe.pid = q :=
    fun _ _ h ↦ batchIndex_pid h
  have hopen := Restamped.setEpoch hw (g.epoch + 1)
  have hfold := seen_upsertFold hlookup es ({ g with epoch := g.epoch + 1 }, #[]) hopen.consistent
  have hw' := (kept_upsertFold hlookup es ({ g with epoch := g.epoch + 1 }, #[]) hopen.consistent).consistent
  rw [refresh_fst]
  intro e he
  obtain ⟨h, hh, hs⟩ := hfold.2 e he
  exact ⟨h, by rw [(Restamped.stampAncestors hw').nodes.index_eq]; exact hh,
    (hw'.seen_stampAncestors).2 h hs⟩

end Stamp

theorem not_seenNow_of_mem_unseen (hp : p ∈ g.unseen) : ∃ h, g.index[p]? = some h ∧ ¬ SeenNow g h := by
  obtain ⟨⟨q, h⟩, hmem, hq⟩ := List.mem_filterMap.mp hp
  dsimp only at hq
  split at hq
  · rename_i hcond
    cases hq
    refine ⟨h, Std.TreeMap.mem_toList_iff_getElem?_eq_some.mp hmem, ?_⟩
    rintro ⟨n, hn, hs⟩
    simp [hn, hs] at hcond
  · cases hq

end KeystrokeTally.Proc.Graph
