import KeystrokeTally.Proofs.Graph.Coverage
import KeystrokeTally.Proofs.Graph.Sync

namespace KeystrokeTally.Proc.Graph

open Relation

variable {g g' g'' : Graph} {x y h t c : Handle} {n : Node} {p q : Pid}

section Remove

variable {T : Pid → Prop} {alive : Pid → Bool}

theorem get?_release_eq_some {n' : Node} (hx : (g.release h).get? x = some n') : g.get? x = some n' := by
  obtain ⟨s, hs, hgen, hn⟩ := get?_eq_some_iff.mp hx
  refine get?_eq_some_iff.mpr ⟨s, ?_, hgen, hn⟩
  unfold release at hs
  split at hs
  · split at hs
    · rw [Array.getElem?_modify] at hs
      split at hs
      · obtain ⟨s₀, -, rfl⟩ := Option.map_eq_some_iff.mp hs
        cases hn
      · exact hs
    · exact hs
  · exact hs

theorem stampsOnly_drop : StampsOnly T g ({ g with index := g.index.erase p }.release h) :=
  ⟨release_epoch, fun _ n' hn' ↦
    Or.inl ⟨n', get?_release_eq_some (g := { g with index := g.index.erase p }) hn', rfl, rfl⟩⟩

theorem stampsOnly_removeTree : ∀ (fuel : Nat) (g : Graph) (p : Pid), StampsOnly T g (removeTree alive fuel g p)
  | 0, g, p => by
    rw [removeTree]
    exact .refl
  | fuel + 1, g, p => by
    by_cases hp : p = rootPid
    · rw [removeTree, if_pos (by simpa using hp)]
      exact .refl
    cases hi : g.index[p]? with
    | none =>
      rw [removeTree]
      simp only [beq_iff_eq, hp, if_false, hi]
      exact .refl
    | some h =>
      rw [removeTree_succ hp hi]
      have hloop : ∀ (cs : List Handle) (G : Graph), StampsOnly T G (cs.foldl (removeChild alive fuel) G) := by
        intro cs
        induction cs with
        | nil => exact fun _ ↦ .refl
        | cons c cs ih =>
          intro G
          refine StampsOnly.trans ?_ (ih _)
          unfold removeChild
          split
          · exact .refl
          · have h₁ : StampsOnly T G (G.update c fun n ↦ { n with parent := none }) :=
              stampsOnly_update (fun _ ↦ rfl) fun _ _ ↦ Or.inl rfl
            split
            · exact h₁
            · exact h₁.trans (stampsOnly_removeTree fuel _ _)
      have htake : StampsOnly T (g.unlink h) ((g.unlink h).update h fun n ↦ { n with children := [] }) :=
        stampsOnly_update (fun _ ↦ rfl) fun _ _ ↦ Or.inl rfl
      exact stampsOnly_unlink.trans (htake.trans ((hloop _ _).trans stampsOnly_drop))

theorem stampsOnly_remove : StampsOnly T g (g.remove p alive).1 := by
  unfold Graph.remove
  split
  · exact .refl
  · exact stampsOnly_removeTree g.size g p

end Remove

theorem stampsBounded_empty : StampsBounded empty := by
  intro x n hx
  rw [get?_empty] at hx
  split at hx
  · cases hx
    exact Nat.le_refl _
  · cases hx

theorem Reachable.stampsBounded (hg : Reachable g) : StampsBounded g := by
  induction hg with
  | empty => exact stampsBounded_empty
  | step op hg ih =>
    cases op with
    | upsert e =>
      rw [Op.apply, upsert_eq]
      have hnone : ∀ q pe, (fun _ ↦ none : Pid → Option Entry) q = some pe → pe.pid = q :=
        fun _ _ h ↦ by cases h
      have hs := stampsOnly_upsertWith hnone chaseLimit _ #[] e .observed hg.consistent
      exact hs.bounded ih
    | refresh entries => exact hg.consistent.stampsBounded_refresh ih entries
    | remove p alive => exact (stampsOnly_remove (T := fun _ ↦ False)).bounded ih

theorem unlink_index : (g.unlink c).index = g.index := by
  unfold unlink
  split
  · rfl
  · split <;> rfl

section Alive

variable {alive : Pid → Bool} (hq : alive q = true)
include hq

theorem index_removeTree_alive : ∀ (fuel : Nat) (g : Graph) (p : Pid), q ≠ p →
    (removeTree alive fuel g p).index[q]? = g.index[q]?
  | 0, g, p, _ => by rw [removeTree]
  | fuel + 1, g, p, hqp => by
    by_cases hp : p = rootPid
    · rw [removeTree, if_pos (by simpa using hp)]
    cases hi : g.index[p]? with
    | none =>
      rw [removeTree]
      simp only [beq_iff_eq, hp, if_false, hi]
    | some h =>
      have hloop : ∀ (cs : List Handle) (G : Graph), (cs.foldl (removeChild alive fuel) G).index[q]? = G.index[q]? := by
        intro cs
        induction cs with
        | nil => exact fun _ ↦ rfl
        | cons c cs ih =>
          intro G
          rw [List.foldl_cons, ih]
          unfold removeChild
          split
          · rfl
          · rename_i n _
            dsimp only
            split
            case isTrue => rfl
            case isFalse hn =>
              rw [index_removeTree_alive fuel _ n.pid fun h ↦ hn (h ▸ hq)]
              rfl
      rw [removeTree_succ hp hi]
      dsimp only
      rw [release_index, Std.TreeMap.getElem?_erase, if_neg (fun h ↦ hqp (Nat.compare_eq_eq.mp h).symm), hloop,
        update_index, unlink_index]

theorem index_remove_alive (g : Graph) (p : Pid) (hqp : q ≠ p) : (g.remove p alive).1.index[q]? = g.index[q]? := by
  unfold Graph.remove
  split
  · rfl
  · exact index_removeTree_alive hq _ g p hqp

end Alive

def sweep (alive : Pid → Bool) (ps : List Pid) (g : Graph) : Graph :=
  ps.foldl (fun G p ↦ if alive p then G else (G.remove p alive).1) g

theorem unseen_sorted : g.unseen.Pairwise (· < ·) := by
  unfold unseen
  rw [List.pairwise_filterMap]
  refine (Std.TreeMap.ordered_keys_toList (t := g.index)).imp ?_
  rintro ⟨p, x⟩ ⟨p', x'⟩ hlt b hb b' hb'
  dsimp only at hb hb'
  split at hb <;> split at hb' <;> simp only [Option.some.injEq, reduceCtorEq] at hb hb'
  subst hb hb'
  exact Nat.compare_eq_lt.mp hlt

theorem mem_unseen : p ∈ g.unseen ↔ p ≠ rootPid ∧ ∃ x n, g.index[p]? = some x ∧ g.get? x = some n ∧ n.seen < g.epoch := by
  simp only [unseen, List.mem_filterMap]
  constructor
  · rintro ⟨⟨q, x⟩, hx, hq⟩
    split at hq
    · cases hq
      rename_i hcond
      simp only [Bool.and_eq_true, bne_iff_ne] at hcond
      obtain ⟨hp, hany⟩ := hcond
      cases hn : g.get? x with
      | none => simp [hn] at hany
      | some n =>
        exact ⟨hp, x, n, Std.TreeMap.mem_toList_iff_getElem?_eq_some.mp hx, hn, by simpa [hn] using hany⟩
    · cases hq
  · rintro ⟨hp, x, n, hx, hn, hlt⟩
    exact ⟨(p, x), Std.TreeMap.mem_toList_iff_getElem?_eq_some.mpr hx, by simp [hp, hn, hlt]⟩

theorem Consistent.seenNow_of_not_mem_unseen (hw : g.Consistent) (hb : StampsBounded g)
    (hx : g.index[p]? = some x) (hp : p ≠ rootPid) (hns : p ∉ g.unseen) : SeenNow g x := by
  obtain ⟨n, hn, -⟩ := hw.arena.index_get hx
  refine ⟨n, hn, Nat.le_antisymm (hb hn) (Nat.not_lt.mp fun hlt ↦ hns ?_)⟩
  exact mem_unseen.mpr ⟨hp, x, n, hx, hn, hlt⟩

theorem SeenUp.of_chain (hy : SeenUp g y) (hyx : ReflTransGen g.Link y x) : SeenUp g x :=
  fun z hz ↦ hy z (hyx.trans hz)

theorem Consistent.seenUp_refresh (hw : g.Consistent) (hb : StampsBounded g) {es : List Entry}
    (hnodup : (es.map (·.pid)).Nodup) (hx : SeenNow (g.refresh es).1 x) : SeenUp (g.refresh es).1 x := by
  obtain ⟨e, he, h, hh, hhx⟩ := hw.refresh_covered hb hnodup hx
  obtain ⟨h', hh', hup⟩ := hw.refresh_seenUp es e he
  rw [hh] at hh'
  cases hh'
  exact hup.of_chain hhx

theorem Shrinks.index_none (hs : Shrinks g g') (ha : g.ArenaWf) (ha' : g'.ArenaWf)
    (hp : g.index[p]? = none) : g'.index[p]? = none := by
  cases hp' : g'.index[p]? with
  | none => rfl
  | some x => rw [hs.index_sub ha ha' hp'] at hp; cases hp

theorem gone_sweep {alive : Pid → Bool} : ∀ (ps : List Pid) (G : Graph), G.Consistent →
    (∀ p ∈ ps, p ≠ rootPid ∧ alive p = false) →
    (sweep alive ps G).Consistent ∧ Shrinks G (sweep alive ps G) ∧ ∀ p ∈ ps, (sweep alive ps G).index[p]? = none
  | [], G, hw, _ => ⟨hw, .refl, fun _ h ↦ absurd h List.not_mem_nil⟩
  | p :: ps, G, hw, hps => by
    obtain ⟨hp, hdead⟩ := hps p List.mem_cons_self
    have hstep : sweep alive (p :: ps) G = sweep alive ps (G.remove p alive).1 := by
      simp only [sweep, List.foldl_cons, hdead, Bool.false_eq_true, if_false]
    obtain ⟨hw₁, hs₁⟩ := hw.remove (p := p) alive
    obtain ⟨hw', hs', hgone⟩ := gone_sweep ps _ hw₁ fun q hq ↦ hps q (List.mem_cons_of_mem _ hq)
    rw [hstep]
    refine ⟨hw', hs₁.trans hs', fun q hq ↦ ?_⟩
    rcases List.mem_cons.mp hq with rfl | hq
    · have hq₁ : (G.remove q alive).1.index[q]? = none := by
        cases hi : G.index[q]? with
        | none => exact hs₁.index_none hw.arena hw₁.arena hi
        | some x => exact remove_index_self hp (by rw [hi]; rfl)
      exact hs'.index_none hw₁.arena hw'.arena hq₁
    · exact hgone q hq

theorem Consistent.pid_chain (hw : g.Consistent) (hx : g.index[p]? = some x)
    (hxy : ReflTransGen g.Link x y) :
    ∃ q, g.index[q]? = some y ∧ ReflTransGen (fun a b ↦ g.parentOf a = some b) p q := by
  induction hxy with
  | refl => exact ⟨p, hx, .refl⟩
  | tail _ hyz ih =>
    obtain ⟨q, hq, hpq⟩ := ih
    obtain ⟨m, hm⟩ := Option.isSome_iff_exists.mp (hw.forest.parent_live hyz)
    refine ⟨m.pid, hw.arena.get_index hm, hpq.tail ?_⟩
    rw [parentOf_of_index hq, hyz, Option.bind_some]
    simp [pidOf, hm]

theorem Consistent.link_chain (hw : g.Consistent) (hx : g.index[p]? = some x)
    (hpq : ReflTransGen (fun a b ↦ g.parentOf a = some b) p q) :
    ∃ y, g.index[q]? = some y ∧ ReflTransGen g.Link x y := by
  induction hpq with
  | refl => exact ⟨x, hx, .refl⟩
  | tail _ hbc ih =>
    obtain ⟨y, hy, hxy⟩ := ih
    obtain ⟨z, hz⟩ := Option.isSome_iff_exists.mp (hw.index_of_parentOf_eq hbc)
    exact ⟨z, hz, hxy.tail (hw.link_of_parentOf hy hz hbc)⟩

theorem Spares.chain {S : Handle → Prop} (hs : Spares S g g') (hx : ∀ z, ReflTransGen g.Link x z → ¬ S z)
    (hxy : ReflTransGen g.Link x y) : ReflTransGen g'.Link x y := by
  induction hxy with
  | refl => exact .refl
  | tail hxz hzw ih =>
    rename_i z w
    obtain ⟨n, hn, hpar⟩ := Option.bind_eq_some_iff.mp hzw
    obtain ⟨n', hn', -, hpar'⟩ := hs (hx z hxz) hn
    exact ih.tail (by rw [Link, up, hn', Option.bind_some, hpar', hpar])

section Sync

variable {es : List Entry} {alive : Pid → Bool} (hw : g.Consistent) (hb : StampsBounded g)
  (hnodup : (es.map (·.pid)).Nodup) (halive : ∀ p, alive p = true → ∃ e ∈ es, e.pid = p)
include hw hb hnodup halive

omit hb hnodup in
theorem Consistent.sweep_refresh :
    (sweep alive (g.refresh es).1.unseen (g.refresh es).1).Consistent ∧
      Shrinks (g.refresh es).1 (sweep alive (g.refresh es).1.unseen (g.refresh es).1) ∧
      Spares (fun x ↦ ¬ SeenUp (g.refresh es).1 x) (g.refresh es).1
        (sweep alive (g.refresh es).1.unseen (g.refresh es).1) ∧
      ∀ p ∈ (g.refresh es).1.unseen, (sweep alive (g.refresh es).1.unseen (g.refresh es).1).index[p]? = none := by
  have hw₁ : (g.refresh es).1.Consistent := (refresh_spec hw).1
  have hdead : ∀ p ∈ (g.refresh es).1.unseen, p ≠ rootPid ∧ alive p = false := by
    intro p hp
    refine ⟨(mem_unseen.mp hp).1, Bool.eq_false_iff.mpr fun ha ↦ ?_⟩
    obtain ⟨e, he, rfl⟩ := halive p ha
    obtain ⟨h, hh, hup⟩ := hw.refresh_seenUp es e he
    obtain ⟨h', hh', hnot⟩ := not_seenNow_of_mem_unseen hp
    rw [hh] at hh'
    cases hh'
    exact hnot (hup h .refl)
  obtain ⟨hw', hs, hgone⟩ := gone_sweep _ _ hw₁ hdead
  exact ⟨hw', hs, (spares_removeStale hw₁ alive _ (fun _ hp ↦ hp) _ hw₁ .refl .refl).2, hgone⟩

omit hb hnodup in
theorem Consistent.index_sweep_of_seenUp (hx : (g.refresh es).1.index[q]? = some x)
    (hup : SeenUp (g.refresh es).1 x) :
    (sweep alive (g.refresh es).1.unseen (g.refresh es).1).index[q]? = some x := by
  obtain ⟨hw', -, hsp, -⟩ := hw.sweep_refresh halive
  have hw₁ : (g.refresh es).1.Consistent := (refresh_spec hw).1
  obtain ⟨n, hn, rfl⟩ := hw₁.arena.index_get hx
  obtain ⟨n', hn', hpid, -⟩ := hsp (not_not.mpr hup) hn
  rw [← hpid]
  exact hw'.arena.get_index hn'

omit halive in
theorem Consistent.seenUp_of_not_mem_unseen (hx : (g.refresh es).1.index[q]? = some x) (hr : q ≠ rootPid)
    (hq : q ∉ (g.refresh es).1.unseen) : SeenUp (g.refresh es).1 x :=
  hw.seenUp_refresh hb hnodup
    ((refresh_spec hw).1.seenNow_of_not_mem_unseen (hw.stampsBounded_refresh hb es) hx hr hq)

theorem Consistent.index_sweep_refresh (q : Pid) :
    (sweep alive (g.refresh es).1.unseen (g.refresh es).1).index[q]? =
      if q ∈ (g.refresh es).1.unseen then none else (g.refresh es).1.index[q]? := by
  obtain ⟨hw', hs, -, hgone⟩ := hw.sweep_refresh halive
  have hw₁ : (g.refresh es).1.Consistent := (refresh_spec hw).1
  split
  case isTrue hq => exact hgone q hq
  case isFalse hq =>
    cases hx : (g.refresh es).1.index[q]? with
    | none => exact hs.index_none hw₁.arena hw'.arena hx
    | some x =>
      by_cases hr : q = rootPid
      · subst hr
        rw [hw'.arena.index_root, ← hx, hs.index_sub hw₁.arena hw'.arena hw'.arena.index_root]
      · exact hw.index_sweep_of_seenUp halive hx (hw.seenUp_of_not_mem_unseen hb hnodup hx hr hq)

theorem Consistent.size_sweep_refresh :
    (sweep alive (g.refresh es).1.unseen (g.refresh es).1).size + (g.refresh es).1.unseen.length =
      (g.refresh es).1.size := by
  have hidx := hw.index_sweep_refresh hb hnodup halive
  have hsub : ∀ q ∈ (g.refresh es).1.unseen, ((g.refresh es).1.index[q]?).isSome := by
    intro q hq
    obtain ⟨-, x, -, hx, -⟩ := mem_unseen.mp hq
    simp [hx]
  have hperm : ((sweep alive (g.refresh es).1.unseen (g.refresh es).1).index.keys ++
      (g.refresh es).1.unseen).Perm (g.refresh es).1.index.keys := by
    refine (List.perm_ext_iff_of_nodup ?_ Std.TreeMap.nodup_keys).mpr fun q ↦ ?_
    · refine List.nodup_append.mpr ⟨Std.TreeMap.nodup_keys, unseen_sorted.imp Nat.ne_of_lt, ?_⟩
      intro a ha b hb hab
      subst hab
      rw [Std.TreeMap.mem_keys, Std.TreeMap.mem_iff_isSome_getElem?, hidx, if_pos hb] at ha
      cases ha
    · simp only [List.mem_append, Std.TreeMap.mem_keys, Std.TreeMap.mem_iff_isSome_getElem?, hidx]
      by_cases hq : q ∈ (g.refresh es).1.unseen
      · simp [hq, hsub q hq]
      · simp [hq]
  simp only [size, ← Std.TreeMap.length_keys, ← List.length_append, hperm.length_eq]

theorem Consistent.isRootPid_sweep_refresh (hroots : ∀ q, g.IsRootPid q ↔ q = rootPid) (q : Pid) :
    (sweep alive (g.refresh es).1.unseen (g.refresh es).1).IsRootPid q ↔ q = rootPid := by
  obtain ⟨hw', -, hsp, -⟩ := hw.sweep_refresh halive
  have hw₁ : (g.refresh es).1.Consistent := (refresh_spec hw).1
  refine ⟨fun ⟨x, hx, hup⟩ ↦ ?_, fun h ↦ h ▸ hw'.isRootPid_root⟩
  by_contra hr
  rw [hw.index_sweep_refresh hb hnodup halive] at hx
  split at hx
  case isTrue => cases hx
  case isFalse hq =>
    have hseen := hw.seenUp_of_not_mem_unseen hb hnodup hx hr hq
    obtain ⟨n, hn, -⟩ := hw₁.arena.index_get hx
    obtain ⟨n', hn', -, hpar⟩ := hsp (not_not.mpr hseen) hn
    have hroot₁ : (g.refresh es).1.IsRootPid q := ⟨x, hx, by simpa [up, hn, hn', hpar] using hup⟩
    exact hr ((hroots q).mp (((refresh_spec hw).2 q).mp hroot₁).1)

theorem Consistent.tracked_sweep_refresh (q : Pid) :
    ((sweep alive (g.refresh es).1.unseen (g.refresh es).1).index[q]?).isSome ↔
      q = rootPid ∨ ∃ e ∈ es,
        ReflTransGen (fun a b ↦ (sweep alive (g.refresh es).1.unseen (g.refresh es).1).parentOf a = some b) e.pid q := by
  obtain ⟨hw', -, hsp, -⟩ := hw.sweep_refresh halive
  have hw₁ : (g.refresh es).1.Consistent := (refresh_spec hw).1
  constructor
  · intro hq
    by_cases hr : q = rootPid
    · exact Or.inl hr
    right
    obtain ⟨x, hx⟩ := Option.isSome_iff_exists.mp hq
    have hx' := hx
    rw [hw.index_sweep_refresh hb hnodup halive] at hx'
    split at hx'
    case isTrue => cases hx'
    case isFalse hns =>
      obtain ⟨e, he, h, hh, hhx⟩ := hw.refresh_covered hb hnodup
        (hw₁.seenNow_of_not_mem_unseen (hw.stampsBounded_refresh hb es) hx' hr hns)
      obtain ⟨h', hh', hup⟩ := hw.refresh_seenUp es e he
      rw [hh] at hh'
      cases hh'
      have hchain := hsp.chain (fun z hz ↦ not_not.mpr (hup.of_chain hz)) hhx
      obtain ⟨q', hq', hpq⟩ := hw'.pid_chain (hw.index_sweep_of_seenUp halive hh hup) hchain
      exact ⟨e, he, hw'.arena.pid_eq_of_index hq' hx ▸ hpq⟩
  · rintro (rfl | ⟨e, he, hpq⟩)
    · simp [hw'.arena.index_root]
    · cases hpq.cases_tail with
      | inl hq =>
        subst hq
        obtain ⟨h, hh, hup⟩ := hw.refresh_seenUp es e he
        simp [hw.index_sweep_of_seenUp halive hh hup]
      | inr hlast =>
        obtain ⟨b, -, hbq⟩ := hlast
        exact hw'.index_of_parentOf_eq hbq

omit hb hnodup in
theorem Consistent.keeps_ancestors_sweep_refresh {e : Entry} (he : e ∈ es)
    (hq : ReflTransGen (fun a b ↦ (g.refresh es).1.parentOf a = some b) e.pid q) :
    (sweep alive (g.refresh es).1.unseen (g.refresh es).1).index[q]? = (g.refresh es).1.index[q]? ∧
      (sweep alive (g.refresh es).1.unseen (g.refresh es).1).parentOf q = (g.refresh es).1.parentOf q := by
  obtain ⟨hw', -, hsp, -⟩ := hw.sweep_refresh halive
  have hw₁ : (g.refresh es).1.Consistent := (refresh_spec hw).1
  obtain ⟨h, hh, hup⟩ := hw.refresh_seenUp es e he
  obtain ⟨y, hy, hhy⟩ := hw₁.link_chain hh hq
  have hupy := hup.of_chain hhy
  refine ⟨(hw.index_sweep_of_seenUp halive hy hupy).trans hy.symm, ?_⟩
  exact hsp.parentOf hw₁ hw' hy (not_not.mpr hupy) fun z hz ↦ not_not.mpr (hupy.of_chain (.single hz))

end Sync

theorem Reachable.sweep {alive : Pid → Bool} : ∀ {ps : List Pid} {g : Graph}, Reachable g → Reachable (sweep alive ps g)
  | [], _, hg => hg
  | p :: ps, g, hg => by
    change Reachable (Graph.sweep alive ps (if alive p then g else (g.remove p alive).1))
    split
    · exact Reachable.sweep hg
    · exact Reachable.sweep (.step (.remove p alive) hg)

theorem roots_eq_root (ha : g.ArenaWf) (hroots : ∀ q, g.IsRootPid q ↔ q = rootPid) : g.roots = [rootPid] := by
  refine roots_sorted.eq_of_mem_iff (List.pairwise_singleton _ _) fun q ↦ ?_
  rw [mem_roots ha, List.mem_singleton]
  exact hroots q

theorem sync_eq (g : Graph) (stats : Stats.Counters) {d : Disk.Tree} {src : Source} {es : List Entry}
    {k : Nat} (hen : src.enumerate d = .ok (es, k)) :
    ∃ stats', sync d src g stats = .ok (sweep (src.alive d) (g.refresh es).1.unseen (g.refresh es).1, stats',
      ⟨es.length, (g.refresh es).1.size - (sweep (src.alive d) (g.refresh es).1.unseen (g.refresh es).1).size,
        (sweep (src.alive d) (g.refresh es).1.unseen (g.refresh es).1).size⟩, k) := by
  unfold sync
  rw [hen]
  exact ⟨_, rfl⟩

end KeystrokeTally.Proc.Graph
