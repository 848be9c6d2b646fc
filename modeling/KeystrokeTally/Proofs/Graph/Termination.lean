import KeystrokeTally.Proofs.Graph.Dump

namespace KeystrokeTally.Proc.Graph

open Relation

variable {g G : Graph} {D : List Handle} {h₀ h x a : Handle} {n : Node} {fuel fuel' : Nat}

theorem above_eq_none_of_le {m k : Nat} (hm : g.above m x = none) (hk : m ≤ k) :
    g.above k x = none := by
  obtain ⟨d, rfl⟩ := Nat.exists_eq_add_of_le hk
  rw [above_add, hm, Option.bind_none]

theorem Consistent.size_pos (hw : g.Consistent) : 0 < g.size :=
  Nat.lt_of_lt_of_le (Finset.card_pos.mpr ⟨g.root, mem_liveSet.mpr hw.root_live⟩)
    hw.arena.card_liveSet_le

theorem Consistent.above_lt_size_of_live (hw : g.Consistent) (ha : (g.get? a).isSome) {k : Nat}
    (hk : g.above k x = some a) : k < g.size := by
  by_cases hr : a = g.root
  · subst hr
    cases k with
    | zero => exact hw.size_pos
    | succ j =>
      rw [above_succ'] at hk
      obtain ⟨y, hy, hup⟩ := Option.bind_eq_some_iff.mp hk
      obtain ⟨m, hm, -⟩ := Option.bind_eq_some_iff.mp hup
      have hyr : y ≠ g.root := by
        rintro rfl
        rw [hw.forest.root_up] at hup
        cases hup
      have := hw.above_lt_size (by simp [hm]) hyr hy
      omega
  · have := hw.above_lt_size ha hr hk
    omega

theorem Consistent.above_liveCount (hw : g.Consistent) (x : Handle) : g.above g.liveCount x = none := by
  have hcount : g.liveCount = g.size := hw.arena.live_count
  obtain ⟨j, hj⟩ := Nat.exists_eq_succ_of_ne_zero (Nat.pos_iff_ne_zero.mp hw.size_pos)
  rw [hcount]
  cases hk : g.above g.size x with
  | none => rfl
  | some a =>
    have hlink : ∃ y, g.above j x = some y ∧ g.Link y a := by
      rw [hj, above_succ'] at hk
      exact Option.bind_eq_some_iff.mp hk
    obtain ⟨y, -, hya⟩ := hlink
    have := hw.above_lt_size_of_live (hw.forest.parent_live hya) hk
    omega

theorem liveCount_le_size : g.liveCount ≤ g.slots.size := Array.countP_le_size

theorem linksUp_eq_of_above {m : Nat} (hm : g.above (m + 1) x = none) (hf : m ≤ fuel) :
    g.linksUp a fuel x = g.linksUp a m x := by
  apply Bool.eq_iff_iff.mpr
  rw [linksUp_iff, linksUp_iff]
  constructor
  · rintro ⟨k, -, hk⟩
    refine ⟨k, Nat.le_of_not_lt fun hlt ↦ ?_, hk⟩
    rw [above_eq_none_of_le hm hlt] at hk
    cases hk
  · rintro ⟨k, hk, hx⟩
    exact ⟨k, hk.trans hf, hx⟩

theorem Consistent.linksUp_eq_isAncestor (hw : g.Consistent) (hf : g.liveCount ≤ fuel + 1) :
    g.linksUp a fuel x = g.isAncestor a x := by
  obtain ⟨m, hm⟩ : ∃ m, g.liveCount = m + 1 := by
    have : g.liveCount = g.size := hw.arena.live_count
    exact Nat.exists_eq_succ_of_ne_zero (by have := hw.size_pos; omega)
  have hend : g.above (m + 1) x = none := hm ▸ hw.above_liveCount x
  have hsize : g.liveCount ≤ g.slots.size := liveCount_le_size
  have hwalk : g.linksUp a fuel x = g.linksUp a m x := linksUp_eq_of_above hend (by omega)
  have hguard : g.linksUp a g.slots.size x = g.linksUp a m x := linksUp_eq_of_above hend (by omega)
  rw [isAncestor, hwalk, hguard]

theorem walkDown_fuel_congr : ∀ {fuel fuel' : Nat} {stack : List Handle} {visited : Std.HashSet Handle}
    {found : List (Pid × String)}, WalkInv g h₀ stack visited found →
    stack.length + g.unvisited visited ≤ fuel → fuel ≤ fuel' →
    g.walkDown fuel' stack visited found = g.walkDown fuel stack visited found
  | 0, fuel', [], _, _, _, _, _ => by cases fuel' <;> simp only [walkDown_zero, walkDown_nil]
  | 0, _, _ :: _, _, _, _, hm, _ => absurd hm (by simp)
  | _ + 1, 0, _, _, _, _, _, hf => absurd hf (Nat.not_succ_le_zero _)
  | _ + 1, _ + 1, [], _, _, _, _, _ => by rw [walkDown_nil, walkDown_nil]
  | fuel + 1, fuel' + 1, h :: stack, visited, found, hi, hm, hf => by
    cases hh : g.get? h with
    | none =>
      rw [walkDown_dead hh, walkDown_dead hh]
      exact walkDown_fuel_congr (hi.popDead hh) (by simp only [List.length_cons] at hm; omega) (by omega)
    | some n =>
      rw [walkDown_live hh, walkDown_live hh]
      obtain ⟨hi', hm'⟩ := hi.pop hh
      exact walkDown_fuel_congr hi' (by omega) (by omega)

theorem walkDown_start_fuel (hf : g.slots.size + 1 ≤ fuel) :
    g.walkDown fuel [h] ((∅ : Std.HashSet Handle).insert h) [] =
      g.walkDown (g.slots.size + 1) [h] ((∅ : Std.HashSet Handle).insert h) [] := by
  have hleft : g.unvisited ((∅ : Std.HashSet Handle).insert h) ≤ g.slots.size :=
    (Finset.card_filter_le _ _).trans card_liveSet_le
  exact walkDown_fuel_congr walkInv_start (by simp only [List.length_singleton]; omega) hf

theorem Shallow.mono (hs : g.Shallow x fuel) (hf : fuel ≤ fuel') : g.Shallow x fuel' :=
  fun z d hz ↦ Nat.lt_of_lt_of_le (hs z d hz) hf

theorem Consistent.renderFrom_fuel_congr (hw : g.Consistent) (hs : g.Shallow x fuel) (hf : fuel ≤ fuel')
    (k : Nat) : g.renderFrom fuel' x k = g.renderFrom fuel x k := by
  cases hx : g.get? x with
  | none =>
    obtain ⟨f, rfl⟩ := Nat.exists_eq_succ_of_ne_zero (Nat.pos_iff_ne_zero.mp hs.pos)
    obtain ⟨f', rfl⟩ := Nat.exists_eq_succ_of_ne_zero (by omega : fuel' ≠ 0)
    simp only [renderFrom, hx]
  | some n =>
    have hidx := hw.arena.get_index hx
    obtain ⟨l, hl, htext⟩ := hw.renderFrom_outline fuel x n.pid k hidx hs
    obtain ⟨l', hl', htext'⟩ := hw.renderFrom_outline fuel' x n.pid k hidx (hs.mono hf)
    rw [htext, htext', hl'.unique hl]

theorem Shallow.of_shrinks (hs : Shrinks g G) (hx : g.Shallow x fuel) : G.Shallow x fuel :=
  fun z d hz ↦ hx z d (above_of_shrinks hs hz)

section Removal

variable {alive : Pid → Bool}

theorem foldl_removeChild_fuel_congr {g₀ : Graph}
    (ih : ∀ (G : Graph) (D : List Handle) (p : Pid), G.Wf D →
      (∀ x, G.index[p]? = some x → x ∉ D ∧ G.Shallow x fuel) →
      removeTree alive fuel' G p = removeTree alive fuel G p)
    (hsh : g₀.Shallow h (fuel + 1)) :
    ∀ (cs : List Handle) (G : Graph), (∀ c ∈ cs, c ∉ h :: D ∧ g₀.Link c h) → G.Wf (h :: D) →
      Shrinks g₀ G → cs.foldl (removeChild alive fuel') G = cs.foldl (removeChild alive fuel) G
  | [], _, _, _, _ => rfl
  | c :: cs, G, hcs, hw, hs => by
    obtain ⟨hcD, hc₀⟩ := hcs c List.mem_cons_self
    have hc : ∀ {q}, G.Link c q → q = h := fun hl ↦
      Option.some.inj ((hs.link_sub hl).symm.trans hc₀)
    have hstep : removeChild alive fuel' G c = removeChild alive fuel G c := by
      unfold removeChild
      cases hn : G.get? c with
      | none => rfl
      | some n =>
        dsimp only
        by_cases ha : alive n.pid = true
        · rw [if_pos ha, if_pos ha]
        rw [if_neg ha, if_neg ha]
        have hw₁ : (G.update c fun n ↦ { n with parent := none }).Wf (h :: D) :=
          hw.clearParent fun hl ↦ by rw [hc hl]; exact List.mem_cons_self
        have hidx : (G.update c fun n ↦ { n with parent := none }).index[n.pid]? = some c :=
          hw₁.arena.get_index (n := { n with parent := none }) (by rw [get?_update_self, hn]; rfl)
        have hs₁ : Shrinks g₀ (G.update c fun n ↦ { n with parent := none }) :=
          hs.trans (shrinks_update (by intro; rfl) (by intro; right; rfl))
        refine ih _ _ n.pid hw₁ fun x hx ↦ ?_
        rw [hidx] at hx
        cases hx
        exact ⟨hcD, (hsh.child hc₀).of_shrinks hs₁⟩
    obtain ⟨hw', hs', -, -⟩ := removeChild_spec (removeTree_spec alive fuel) hw hc hcD
    rw [List.foldl_cons, List.foldl_cons, hstep]
    exact foldl_removeChild_fuel_congr ih hsh cs _ (fun c' hc' ↦ hcs c' (List.mem_cons_of_mem _ hc'))
      hw' (hs.trans hs')

end Removal

theorem removeTree_fuel_congr (alive : Pid → Bool) :
    ∀ (fuel fuel' : Nat) (g : Graph) (D : List Handle) (p : Pid), g.Wf D →
      (∀ x, g.index[p]? = some x → x ∉ D ∧ g.Shallow x fuel) → fuel ≤ fuel' →
      removeTree alive fuel' g p = removeTree alive fuel g p
  | 0, fuel', g, _, p, _, hx, _ => by
    cases hi : g.index[p]? with
    | none => cases fuel' <;> simp [removeTree, hi]
    | some x => exact absurd (hx x hi).2.pos (Nat.lt_irrefl 0)
  | _ + 1, 0, _, _, _, _, _, hf => absurd hf (Nat.not_succ_le_zero _)
  | fuel + 1, fuel' + 1, g, D, p, hw, hx, hf => by
    by_cases hp : p = rootPid
    · simp [removeTree, hp]
    cases hi : g.index[p]? with
    | none => simp [removeTree, hp, hi]
    | some h =>
      rw [removeTree_succ hp hi, removeTree_succ hp hi]
      obtain ⟨hhD, hsh⟩ := hx h hi
      obtain ⟨m, hm, hw₂, hs₂, hcs, -⟩ := hw.detach hi hhD
      simp only [hm, Option.map_some, Option.getD_some]
      rw [foldl_removeChild_fuel_congr
        (fun G D q hw hq ↦ removeTree_fuel_congr alive fuel fuel' G D q hw hq (by omega))
        (hsh.of_shrinks hs₂) m.children _ hcs hw₂ .refl]

theorem Consistent.shallow_of_live (hw : g.Consistent) (hx : (g.get? x).isSome) : g.Shallow x g.size :=
  fun _ _ hz ↦ hw.above_lt_size_of_live hx hz

/-- On a consistent graph the cycle guard is exact and no walk of the graph is cut short by its
bound. `isAncestor a x` holds exactly when `a` is `x` or lies on the parent chain of `x`. Every
parent chain has at most as many nodes as there are filled slots, and there are no more of those
than slots, so the guard's walk, which gives up after as many links as there are slots, reaches
the top of the chain first: a walk with any bound from one link less than the filled slots on
answers the same. The removal, which starts with one unit of fuel per tracked pid, the printer
and the walk behind `descendants`, which start with one more than there are slots, likewise
give what any larger fuel gives. -/
theorem Consistent.cycle_guard_exact (hw : g.Consistent) :
    (∀ a x, g.isAncestor a x = true ↔ ReflTransGen g.Link x a) ∧
      (∀ x, g.above g.liveCount x = none) ∧ g.liveCount ≤ g.slots.size ∧
      (∀ a x fuel, g.liveCount ≤ fuel + 1 → g.linksUp a fuel x = g.isAncestor a x) ∧
      (∀ alive p fuel, g.size ≤ fuel → removeTree alive fuel g p = removeTree alive g.size g p) ∧
      (∀ x k fuel, g.slots.size + 1 ≤ fuel →
        g.renderFrom fuel x k = g.renderFrom (g.slots.size + 1) x k) ∧
      (∀ x fuel, g.slots.size + 1 ≤ fuel →
        g.walkDown fuel [x] ((∅ : Std.HashSet Handle).insert x) [] =
          g.walkDown (g.slots.size + 1) [x] ((∅ : Std.HashSet Handle).insert x) []) := by
  refine ⟨fun a x ↦ isAncestor_iff hw.forest.acyclic, hw.above_liveCount, liveCount_le_size,
    fun a x fuel hf ↦ hw.linksUp_eq_isAncestor hf, fun alive p fuel hf ↦ ?_,
    fun x k fuel hf ↦ hw.renderFrom_fuel_congr (shallow_size hw.forest.acyclic x) hf k,
    fun x fuel hf ↦ walkDown_start_fuel hf⟩
  refine removeTree_fuel_congr alive g.size fuel g [] p hw (fun x hx ↦ ⟨List.not_mem_nil, ?_⟩) hf
  obtain ⟨n, hn, -⟩ := hw.arena.index_get hx
  exact hw.shallow_of_live (by simp [hn])

theorem cycle_guard_exact_chain :
    let g := run [.upsert ⟨3, 2, "c"⟩]
    g.Consistent ∧
      (∀ a x, g.isAncestor a x = true ↔ ReflTransGen g.Link x a) ∧
      (∀ x, g.above g.liveCount x = none) ∧ g.liveCount ≤ g.slots.size ∧
      (∀ a x fuel, g.liveCount ≤ fuel + 1 → g.linksUp a fuel x = g.isAncestor a x) ∧
      (∀ alive p fuel, g.size ≤ fuel → removeTree alive fuel g p = removeTree alive g.size g p) ∧
      (∀ x k fuel, g.slots.size + 1 ≤ fuel →
        g.renderFrom fuel x k = g.renderFrom (g.slots.size + 1) x k) ∧
      (∀ x fuel, g.slots.size + 1 ≤ fuel →
        g.walkDown fuel [x] ((∅ : Std.HashSet Handle).insert x) [] =
          g.walkDown (g.slots.size + 1) [x] ((∅ : Std.HashSet Handle).insert x) []) :=
  ⟨(reachable_run _).consistent, (reachable_run _).consistent.cycle_guard_exact⟩

end KeystrokeTally.Proc.Graph
