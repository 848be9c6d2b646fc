import KeystrokeTally.Proofs.Graph.Declared

namespace KeystrokeTally.Proc.Graph

variable {g g' g'' : Graph} {x : Handle} {n : Node}

def Spent (g : Graph) (x : Handle) : Prop :=
  ∃ s, g.slots[x.index]? = some s ∧ x.generation.toNat < s.generation.toNat

def genAt (g : Graph) (i : Nat) : Nat := ((g.slots[i]?).map (·.generation.toNat)).getD 0

theorem Spent.get?_eq_none (hx : g.Spent x) : g.get? x = none := by
  obtain ⟨s, hs, hlt⟩ := hx
  cases hg : g.get? x with
  | none => rfl
  | some m =>
    obtain ⟨s', hs', hgen, -⟩ := get?_eq_some_iff.mp hg
    rw [hs] at hs'
    cases hs'
    rw [hgen] at hlt
    exact absurd hlt (Nat.lt_irrefl _)

theorem toNat_add_one_of_le {a : UInt32} (h : a.toNat ≤ (a + 1).toNat) : (a + 1).toNat = a.toNat + 1 := by
  have hlt := UInt32.toNat_lt a
  rw [UInt32.toNat_add, UInt32.toNat_one] at h ⊢
  omega

/-- What `g'` keeps of the handles of `g`: one that designates a node designates a node of the
same pid or is spent, and one that is spent stays so. -/
structure Ages (g g' : Graph) : Prop where
  live : ∀ {x n}, g.get? x = some n → (∃ n', g'.get? x = some n' ∧ n'.pid = n.pid) ∨ g'.Spent x
  spent : ∀ {x}, g.Spent x → g'.Spent x

namespace Ages

theorem refl : Ages g g := ⟨fun hx ↦ Or.inl ⟨_, hx, rfl⟩, id⟩

theorem trans (h₁ : Ages g g') (h₂ : Ages g' g'') : Ages g g'' where
  live hx := by
    rcases h₁.live hx with ⟨n', hn', hp⟩ | hs
    · rcases h₂.live hn' with ⟨n'', hn'', hp'⟩ | hs'
      · exact Or.inl ⟨n'', hn'', hp'.trans hp⟩
      · exact Or.inr hs'
    · exact Or.inr (h₂.spent hs)
  spent hs := h₂.spent (h₁.spent hs)

end Ages

/-- `g'` is consistent, keeps every index entry of `g`, and keeps every slot's generation. -/
structure Kept (g g' : Graph) : Prop where
  consistent : g'.Consistent
  index_mono : ∀ {q : Pid} {x : Handle}, g.index[q]? = some x → g'.index[q]? = some x
  gens : GensKept g g'

theorem GensKept.genAt_eq (h : GensKept g g') (i : Nat) : genAt g' i = genAt g i := by
  unfold genAt
  cases hs' : g'.slots[i]? with
  | none =>
    cases hs : g.slots[i]? with
    | none => rfl
    | some s =>
      have := h.slot_mono hs
      rw [hs'] at this
      cases this
  | some s' =>
    rw [Option.map_some, Option.getD_some, h.gen_eq hs']
    cases g.slots[i]? <;> rfl

namespace Kept

theorem trans (h₁ : Kept g g') (h₂ : Kept g' g'') : Kept g g'' :=
  ⟨h₂.consistent, fun hq ↦ h₂.index_mono (h₁.index_mono hq), h₁.gens.trans h₂.gens⟩

theorem of_restamped (hr : Restamped g g') : Kept g g' :=
  ⟨hr.consistent, fun hq ↦ by rw [hr.nodes.index_eq]; exact hq, .of_sameNodes hr.nodes⟩

theorem of_inserted {p : Pid} {h : Handle} (hi : Inserted g g' p h) : Kept g g' :=
  ⟨hi.consistent, hi.index_mono, hi.gens⟩

theorem get? (hk : Kept g g') (hw : g.Consistent) (hx : g.get? x = some n) :
    ∃ n', g'.get? x = some n' ∧ n'.pid = n.pid :=
  hk.consistent.arena.index_get (hk.index_mono (hw.arena.get_index hx))

theorem ages (hk : Kept g g') (hw : g.Consistent) : Ages g g' where
  live hx := Or.inl (hk.get? hw hx)
  spent := by
    rintro x ⟨s, hs, hlt⟩
    obtain ⟨s', hs'⟩ := Option.isSome_iff_exists.mp (hk.gens.slot_mono hs)
    refine ⟨s', hs', ?_⟩
    rw [hk.gens.gen_eq hs', hs]
    exact hlt

end Kept

theorem kept_upsertFold {lookup : Pid → Option Entry}
    (hlookup : ∀ q pe, lookup q = some pe → pe.pid = q) (es : List Entry) :
    ∀ (acc : Graph × Array Note), acc.1.Consistent →
      Kept acc.1 (es.foldl (fun acc e ↦ (upsertWith lookup chaseLimit acc e .observed).1) acc).1 := by
  induction es with
  | nil => exact fun acc hw ↦ .of_restamped (.refl hw)
  | cons e es ih =>
    rintro ⟨g, notes⟩ hw
    have hi := inserted_upsertWith hlookup chaseLimit g notes e .observed hw
    exact (Kept.of_inserted hi).trans (ih _ hi.consistent)

theorem Consistent.kept_refresh (hw : g.Consistent) {es : List Entry} : Kept g (g.refresh es).1 := by
  have hopen := Restamped.setEpoch hw (g.epoch + 1)
  have hfold := kept_upsertFold (fun q pe (h : (batchIndex es)[q]? = some pe) ↦ batchIndex_pid h) es
    ({ g with epoch := g.epoch + 1 }, #[]) hopen.consistent
  rw [refresh_fst]
  exact (Kept.of_restamped hopen).trans (hfold.trans (.of_restamped (.stampAncestors hfold.consistent)))

theorem Shrinks.genAt_step (hs : Shrinks g g') (i : Nat) :
    genAt g' i = genAt g i ∨ genAt g' i = (genAt g i + 1) % UInt32.size := by
  unfold Graph.genAt
  have hi := hs.slots i
  generalize g.slots[i]? = a at hi ⊢
  generalize g'.slots[i]? = b at hi ⊢
  cases hi with
  | none => exact Or.inl rfl
  | some hst =>
    rcases hst with ⟨hg, -⟩ | ⟨hg, -, -⟩
    · exact Or.inl (by simp only [Option.map_some, Option.getD_some, hg])
    · exact Or.inr (by simp only [Option.map_some, Option.getD_some, hg, UInt32.toNat_add, UInt32.toNat_one])

theorem advance_toNat (hnw : ∀ i, genAt g i ≤ genAt g' i) {i : Nat} {s s' : Slot}
    (hs : g.slots[i]? = some s) (hs' : g'.slots[i]? = some s') (hg : s'.generation = s.generation + 1) :
    (s.generation + 1).toNat = s.generation.toNat + 1 := by
  have h := hnw i
  simp only [genAt, hs, hs', Option.map_some, Option.getD_some, hg] at h
  exact toNat_add_one_of_le h

theorem Shrinks.ages (hs : Shrinks g g') (hnw : ∀ i, genAt g i ≤ genAt g' i) : Ages g g' where
  live {x n} hx := by
    obtain ⟨s, hs₀, hgen, hnode⟩ := get?_eq_some_iff.mp hx
    have hi := hs.slots x.index
    rw [hs₀] at hi
    generalize hb' : g'.slots[x.index]? = b at hi
    cases hi with
    | some hst =>
      rename_i s'
      rcases hst with ⟨hg, hn⟩ | ⟨hg, -, -⟩
      · rw [hnode] at hn
        obtain ⟨n', hn'⟩ := Option.isSome_iff_exists.mp hn
        have hx' : g'.get? x = some n' := get?_eq_some_iff.mpr ⟨s', hb', by rw [hg, hgen], hn'⟩
        obtain ⟨n₀, hn₀, hp⟩ := hs.get_sub hx'
        rw [hx] at hn₀
        cases hn₀
        exact Or.inl ⟨n', hx', hp.symm⟩
      · refine Or.inr ⟨s', hb', ?_⟩
        rw [hg, advance_toNat hnw hs₀ hb' hg, hgen]
        omega
  spent := by
    rintro x ⟨s, hs₀, hlt⟩
    have hi := hs.slots x.index
    rw [hs₀] at hi
    generalize hb' : g'.slots[x.index]? = b at hi
    cases hi with
    | some hst =>
      rename_i s'
      refine ⟨s', hb', ?_⟩
      rcases hst with ⟨hg, -⟩ | ⟨hg, -, -⟩
      · rwa [hg]
      · rw [hg, advance_toNat hnw hs₀ hb' hg]
        omega

theorem Consistent.kept_apply (hw : g.Consistent) : ∀ op : Op, op.isRemove = false → Kept g (op.apply g)
  | .upsert e, _ => Kept.of_inserted (inserted_upsert (e := e) hw)
  | .refresh _, _ => hw.kept_refresh

theorem Consistent.genAt_apply (hw : g.Consistent) (op : Op) (i : Nat) :
    genAt (op.apply g) i = genAt g i ∨ genAt (op.apply g) i = (genAt g i + 1) % UInt32.size := by
  cases hop : op.isRemove with
  | false => exact Or.inl ((hw.kept_apply op hop).gens.genAt_eq i)
  | true =>
    cases op with
    | remove p alive => exact (hw.remove (p := p) alive).2.genAt_step i
    | _ => cases hop

theorem Consistent.ages_apply (hw : g.Consistent) (op : Op) (hnw : ∀ i, genAt g i ≤ genAt (op.apply g) i) :
    Ages g (op.apply g) := by
  cases hop : op.isRemove with
  | false => exact (hw.kept_apply op hop).ages hw
  | true =>
    cases op with
    | remove p alive => exact (hw.remove (p := p) alive).2.ages hnw
    | _ => cases hop

theorem genAt_empty (i : Nat) : genAt empty i = 0 := by
  cases i with
  | zero => rfl
  | succ i => simp [genAt, empty]

section States

variable {ops : List Op} {i j l : Nat}

theorem run_take_succ {op : Op} (hj : ops[j]? = some op) :
    run (ops.take (j + 1)) = op.apply (run (ops.take j)) := by
  unfold run
  rw [List.take_add_one, hj, Option.toList_some, List.foldl_append, List.foldl_cons, List.foldl_nil]

/-- Whether step `j` of a run empties slot `k`: emptying a slot advances its generation, and
nothing else changes it. -/
def emptied (ops : List Op) (k j : Nat) : Bool :=
  genAt (run (ops.take j)) k != genAt (run (ops.take (j + 1))) k

def releases (ops : List Op) (k : Nat) : Nat := (List.range ops.length).countP (emptied ops k)

theorem releases_le_length (ops : List Op) (k : Nat) : releases ops k ≤ ops.length :=
  List.countP_le_length.trans (List.length_range ..).le

theorem genAt_take_succ (ops : List Op) (k j : Nat) :
    genAt (run (ops.take (j + 1))) k = genAt (run (ops.take j)) k ∨
      genAt (run (ops.take (j + 1))) k = (genAt (run (ops.take j)) k + 1) % UInt32.size := by
  cases hj : ops[j]? with
  | none =>
    left
    rw [List.take_add_one, hj, Option.toList_none, List.append_nil]
  | some op =>
    rw [run_take_succ hj]
    exact (reachable_run _).consistent.genAt_apply op k

theorem genAt_run (ops : List Op) (k : Nat) :
    ∀ j, genAt (run (ops.take j)) k = (List.range j).countP (emptied ops k) % UInt32.size
  | 0 => by simp [run, genAt_empty]
  | j + 1 => by
    rw [List.range_succ, List.countP_append, List.countP_singleton]
    by_cases he : emptied ops k j = true
    · have hne : genAt (run (ops.take j)) k ≠ genAt (run (ops.take (j + 1))) k := by simpa [emptied] using he
      rw [if_pos he, (genAt_take_succ ops k j).resolve_left (Ne.symm hne), genAt_run ops k j, Nat.mod_add_mod]
    · have heq : genAt (run (ops.take j)) k = genAt (run (ops.take (j + 1))) k := by simpa [emptied] using he
      simp only [if_neg he, Nat.add_zero]
      rw [← genAt_run ops k j]
      exact heq.symm

theorem genAt_run_le (hops : ∀ k, releases ops k < UInt32.size) (k j : Nat) :
    genAt (run (ops.take j)) k ≤ genAt (run (ops.take (j + 1))) k := by
  by_cases hj : j < ops.length
  · have hle : (List.range (j + 1)).countP (emptied ops k) ≤ releases ops k :=
      (List.range_sublist.mpr hj).countP_le
    have hmono : (List.range j).countP (emptied ops k) ≤ (List.range (j + 1)).countP (emptied ops k) :=
      (List.range_sublist.mpr (Nat.le_succ j)).countP_le
    have hk := hops k
    rw [genAt_run, genAt_run, Nat.mod_eq_of_lt (by omega), Nat.mod_eq_of_lt (by omega)]
    exact hmono
  · rw [List.take_of_length_le (by omega), List.take_of_length_le (by omega)]

theorem ages_run (hops : ∀ k, releases ops k < UInt32.size) (hil : i ≤ l) :
    Ages (run (ops.take i)) (run (ops.take l)) := by
  induction l, hil using Nat.le_induction with
  | base => exact .refl
  | succ l _ ih =>
    refine ih.trans ?_
    cases hj : ops[l]? with
    | none =>
      rw [List.take_add_one, hj, Option.toList_none, List.append_nil]
      exact .refl
    | some op =>
      have hnw := fun k ↦ genAt_run_le hops k l
      rw [run_take_succ hj] at hnw ⊢
      exact (reachable_run _).consistent.ages_apply op hnw

theorem get?_run_between (hops : ∀ k, releases ops k < UInt32.size) (hij : i ≤ j) (hjl : j ≤ l)
    {n' : Node} (hx : (run (ops.take i)).get? x = some n) (hx' : (run (ops.take l)).get? x = some n') :
    ∃ m, (run (ops.take j)).get? x = some m ∧ m.pid = n.pid := by
  rcases (ages_run hops hij).live hx with hm | hspent
  · exact hm
  · have := ((ages_run hops hjl).spent hspent).get?_eq_none
    rw [hx'] at this
    cases this

end States

def Designates (g : Graph) (h : Handle) (p : Pid) : Prop :=
  g.index[p]? = some h ∧ g.pidOf h = some p

def Stale (g : Graph) (h : Handle) : Prop :=
  g.pidOf h = none ∧ ∀ q : Pid, g.index[q]? ≠ some h

theorem Consistent.designates_of_get? (hw : g.Consistent) (hx : g.get? x = some n) :
    g.Designates x n.pid :=
  ⟨hw.arena.get_index hx, by simp [pidOf, hx]⟩

theorem Consistent.stale_of_get? (hw : g.Consistent) (hx : g.get? x = none) : g.Stale x := by
  refine ⟨by simp [pidOf, hx], fun q hq ↦ ?_⟩
  obtain ⟨m, hm, -⟩ := hw.arena.index_get hq
  rw [hx] at hm
  cases hm

theorem Kept.designates {p : Pid} (hk : Kept g g') (hd : g.Designates x p) : g'.Designates x p :=
  ⟨hk.index_mono hd.1, hk.consistent.pidOf_iff.mpr (hk.index_mono hd.1)⟩

/-- In a run that empties each arena slot fewer than `2^32` times, handles are never confused. A
handle designates nodes of one pid over one stretch of the run, so no two nodes created in the run
share a handle. The handle an upsert returns designates the upserted pid's node, which the index
maps to it, until that node is removed, which only a removal does; from then on it designates
nothing and no pid maps to it, whether its slot is filled again or the pid is upserted again. -/
theorem handles_never_confused (ops : List Op) (hops : ∀ k, releases ops k < UInt32.size) :
    (∀ x i j l n n', i ≤ j → j ≤ l → (run (ops.take i)).get? x = some n →
      (run (ops.take l)).get? x = some n' → ∃ m, (run (ops.take j)).get? x = some m ∧ m.pid = n.pid) ∧
    ∀ k e h, ops[k]? = some (.upsert e) → ((run (ops.take k)).upsert e).2 = h →
      (run (ops.take (k + 1))).Designates h e.pid ∧
      (∀ j, k < j → (run (ops.take j)).Designates h e.pid ∨ ∀ l, j ≤ l → (run (ops.take l)).Stale h) ∧
      (∀ j op, k < j → ops[j]? = some op → op.isRemove = false →
        (run (ops.take j)).Designates h e.pid → (run (ops.take (j + 1))).Designates h e.pid) := by
  refine ⟨fun x i j l n n' hij hjl hx hx' ↦ get?_run_between hops hij hjl hx hx', ?_⟩
  intro k e h hk hh
  have hi := inserted_upsert (e := e) (reachable_run (ops.take k)).consistent
  rw [hh] at hi
  have hd₀ : (run (ops.take (k + 1))).Designates h e.pid := by
    rw [run_take_succ hk]
    exact ⟨hi.index_self, hi.consistent.pidOf_iff.mpr hi.index_self⟩
  obtain ⟨n₀, hn₀, hp₀⟩ := Option.map_eq_some_iff.mp hd₀.2
  refine ⟨hd₀, fun j hkj ↦ ?_, fun j op _ hj hop hd ↦ ?_⟩
  · have hw := (reachable_run (ops.take j)).consistent
    rcases (ages_run hops hkj).live hn₀ with ⟨m, hm, hmp⟩ | hspent
    · left
      rw [← hp₀, ← hmp]
      exact hw.designates_of_get? hm
    · right
      intro l hjl
      exact (reachable_run _).consistent.stale_of_get? ((ages_run hops hjl).spent hspent).get?_eq_none
  · rw [run_take_succ hj]
    exact ((reachable_run (ops.take j)).consistent.kept_apply op hop).designates hd

theorem handles_never_confused_reuse :
    let ops : List Op := [.upsert ⟨1, rootPid, "a"⟩, .remove 1 fun _ ↦ false, .upsert ⟨1, rootPid, "a"⟩]
    (∀ k, releases ops k < UInt32.size) ∧
    (∀ x i j l n n', i ≤ j → j ≤ l → (run (ops.take i)).get? x = some n →
      (run (ops.take l)).get? x = some n' → ∃ m, (run (ops.take j)).get? x = some m ∧ m.pid = n.pid) ∧
    ∀ k e h, ops[k]? = some (.upsert e) → ((run (ops.take k)).upsert e).2 = h →
      (run (ops.take (k + 1))).Designates h e.pid ∧
      (∀ j, k < j → (run (ops.take j)).Designates h e.pid ∨ ∀ l, j ≤ l → (run (ops.take l)).Stale h) ∧
      (∀ j op, k < j → ops[j]? = some op → op.isRemove = false →
        (run (ops.take j)).Designates h e.pid → (run (ops.take (j + 1))).Designates h e.pid) :=
  ⟨fun k ↦ Nat.lt_of_le_of_lt (releases_le_length _ k) (by decide),
    handles_never_confused _ fun k ↦ Nat.lt_of_le_of_lt (releases_le_length _ k) (by decide)⟩

theorem upsert_of_parent_tracked {e : Entry} (hp : e.pid ≠ rootPid)
    (hpar : (g.index[e.parent]?).isSome) :
    SameNodes (g.touch e.pid e.name .observed).1 (g.upsert e).1 ∧
      (g.upsert e).2 = (g.touch e.pid e.name .observed).2 := by
  have hpar₁ : ((g.touch e.pid e.name .observed).1.index[e.parent]?).isSome :=
    isSome_index_touch.mpr (Or.inl hpar)
  rw [upsert_eq, upsertWith.eq_1]
  simp only [beq_iff_eq, hp, if_false]
  rcases ht : g.touch e.pid e.name .observed with ⟨g₁, h₁⟩
  rw [ht] at hpar₁
  obtain ⟨t, hq⟩ := Option.isSome_iff_exists.mp hpar₁
  rw [show chaseLimit = 1023 + 1 from rfl]
  dsimp only
  rw [hq]
  exact ⟨sameNodes_attach, rfl⟩

theorem remove_index_self {p : Pid} {alive : Pid → Bool} (hp : p ≠ rootPid)
    (hi : (g.index[p]?).isSome) : (g.remove p alive).1.index[p]? = none := by
  have hc : g.contains p = true := by
    rw [contains, Std.TreeMap.contains_eq_isSome_getElem?]
    exact hi
  obtain ⟨x, hx⟩ := Option.isSome_iff_exists.mp hi
  obtain ⟨m, hm⟩ : ∃ m, g.size = m + 1 := by
    refine Nat.exists_eq_succ_of_ne_zero fun h0 ↦ ?_
    have he := Std.TreeMap.isEmpty_eq_false_of_contains hc
    rw [Std.TreeMap.isEmpty_eq_size_eq_zero] at he
    simp_all [size]
  unfold Graph.remove
  rw [if_neg (by simp [hc, hp]), hm, removeTree_succ hp hx]
  dsimp only
  rw [release_index]
  exact Std.TreeMap.getElem?_erase_self

/-- The graph after `k` rounds of removing pid `1` and upserting it again: two slots, the root's
and that of pid `1` at generation `k`. -/
structure Round (k : UInt32) (G : Graph) : Prop where
  consistent : G.Consistent
  size : G.slots.size = 2
  slot_one : (G.slots[1]?).map Slot.shape = some (k, true)
  index_root : G.index[rootPid]? = some ⟨0, 0⟩
  index_one : G.index[(1 : Pid)]? = some ⟨1, k⟩
  index_other : ∀ q : Pid, q ≠ rootPid → q ≠ 1 → G.index[q]? = none

/-- A round's graph once pid `1` is removed: its slot is empty, at generation `k`. -/
structure Gone (k : UInt32) (G : Graph) : Prop where
  consistent : G.Consistent
  size : G.slots.size = 2
  slot_one : (G.slots[1]?).map Slot.shape = some (k, false)
  index_root : G.index[rootPid]? = some ⟨0, 0⟩
  index_other : ∀ q : Pid, q ≠ rootPid → G.index[q]? = none

theorem Round.remove {k : UInt32} (hR : Round k G) : Gone (k + 1) (G.remove 1 fun _ ↦ false).1 := by
  obtain ⟨hw', hs⟩ := hR.consistent.remove (p := 1) fun _ ↦ false
  have hone : (G.remove 1 fun _ ↦ false).1.index[(1 : Pid)]? = none :=
    remove_index_self (by decide) (by rw [hR.index_one]; rfl)
  have hother : ∀ q : Pid, q ≠ rootPid → (G.remove 1 fun _ ↦ false).1.index[q]? = none := by
    intro q hq
    by_cases hq1 : q = 1
    · rw [hq1]
      exact hone
    · cases hy : (G.remove 1 fun _ ↦ false).1.index[q]? with
      | none => rfl
      | some y =>
        have := hs.index_sub hR.consistent.arena hw'.arena hy
        rw [hR.index_other q hq hq1] at this
        cases this
  have hroot : (G.remove 1 fun _ ↦ false).1.index[rootPid]? = some ⟨0, 0⟩ := by
    obtain ⟨y, hy⟩ := Option.isSome_iff_exists.mp hw'.arena.root_index
    rw [hy, ← hR.index_root, hs.index_sub hR.consistent.arena hw'.arena hy]
  have h₁ := hs.slots 1
  obtain ⟨s₁, hs₁, hsh₁⟩ := Option.map_eq_some_iff.mp hR.slot_one
  rw [hs₁] at h₁
  generalize hb : (G.remove 1 fun _ ↦ false).1.slots[1]? = b at h₁
  cases h₁ with
  | some hst =>
    rename_i s₁'
    have hsh : (s₁'.generation, s₁'.node.isSome) = (k + 1, false) := by
      simp only [Slot.shape, Prod.mk.injEq] at hsh₁
      rcases hst with ⟨hg, hn⟩ | ⟨hg, -, hn⟩
      · obtain ⟨m, hm⟩ := Option.isSome_iff_exists.mp (hn.trans hsh₁.2)
        have hlive : (G.remove 1 fun _ ↦ false).1.get? ⟨1, k⟩ = some m :=
          get?_eq_some_iff.mpr ⟨s₁', hb, hg.trans hsh₁.1, hm⟩
        have hidx := hw'.arena.get_index hlive
        by_cases hm0 : m.pid = rootPid
        · rw [hm0, hroot] at hidx
          cases hidx
        · rw [hother _ hm0] at hidx
          cases hidx
      · rw [hg, hsh₁.1, hn]
        rfl
    have h₂ := hs.slots 2
    rw [show G.slots[2]? = none by simp [hR.size]] at h₂
    generalize hb₂ : (G.remove 1 fun _ ↦ false).1.slots[2]? = b₂ at h₂
    cases h₂
    refine ⟨hw', ?_, by rw [hb]; exact congrArg some hsh, hroot, hother⟩
    have hlt : 1 < (G.remove 1 fun _ ↦ false).1.slots.size := (Array.getElem?_eq_some_iff.mp hb).1
    have hge : ¬ 2 < (G.remove 1 fun _ ↦ false).1.slots.size := by
      intro h2
      rw [Array.getElem?_eq_getElem h2] at hb₂
      cases hb₂
    omega

theorem Gone.free {k : UInt32} (hG : Gone k G) : G.free = [1] := by
  have ha := hG.consistent.arena
  have hroot : (G.get? ⟨0, 0⟩).isSome := by
    obtain ⟨m, hm, -⟩ := ha.index_get hG.index_root
    simp [hm]
  have hall : ∀ i ∈ G.free, i = 1 := by
    intro i hi
    obtain ⟨s, hs, hn⟩ := ha.free_empty i hi
    have hlt := (Array.getElem?_eq_some_iff.mp hs).1
    rw [hG.size] at hlt
    match i, hs, hlt with
    | 0, hs, _ =>
      obtain ⟨m, hm⟩ := Option.isSome_iff_exists.mp hroot
      obtain ⟨s', hs', -, hn'⟩ := get?_eq_some_iff.mp hm
      rw [hs] at hs'
      cases hs'
      rw [hn] at hn'
      cases hn'
    | 1, _, _ => rfl
  have hone : 1 ∈ G.free := by
    obtain ⟨s, hs, hsh⟩ := Option.map_eq_some_iff.mp hG.slot_one
    simp only [Slot.shape, Prod.mk.injEq] at hsh
    exact ha.empty_free ⟨s, hs, Option.isNone_iff_eq_none.mp (Option.isSome_eq_false_iff.mp hsh.2)⟩
  have hnd := ha.free_nodup
  generalize G.free = l at hall hone hnd
  cases l with
  | nil => cases hone
  | cons a l =>
    rw [hall a List.mem_cons_self] at hnd ⊢
    cases l with
    | nil => rfl
    | cons b l =>
      rw [hall b (by simp)] at hnd
      simp at hnd

theorem Gone.upsert {k : UInt32} (hG : Gone k G) (name : String) :
    Round k (G.upsert ⟨1, rootPid, name⟩).1 ∧ (G.upsert ⟨1, rootPid, name⟩).2 = ⟨1, k⟩ := by
  have hw := hG.consistent
  have hi := inserted_upsert (e := ⟨1, rootPid, name⟩) hw
  have hpar : (G.index[(⟨1, rootPid, name⟩ : Entry).parent]?).isSome := by
    rw [show (⟨1, rootPid, name⟩ : Entry).parent = rootPid from rfl, hG.index_root]
    rfl
  obtain ⟨hsame, hh⟩ := upsert_of_parent_tracked (g := G) (show (1 : Pid) ≠ rootPid by decide) hpar
  have hnone : G.index[(1 : Pid)]? = none := hG.index_other 1 (by decide)
  rw [touch_of_none hnone] at hsame hh
  have hfree := hw.arena.free_empty
  obtain ⟨s₁, hs₁, hsh₁⟩ := Option.map_eq_some_iff.mp hG.slot_one
  simp only [Slot.shape, Prod.mk.injEq] at hsh₁
  have halloc : ∀ n : Node, (G.alloc n).2 = ⟨1, k⟩ := by
    intro n
    simp [alloc, hG.free, hs₁, hsh₁.1]
  rw [halloc] at hh
  have hslot := congrArg (·[1]?) hsame.shape_eq
  simp only [Array.getElem?_map] at hslot
  change _ = ((G.alloc _).1.slots[1]?).map Slot.shape at hslot
  rw [alloc_slots hfree, halloc, if_pos rfl] at hslot
  have hsize := congrArg Array.size hsame.shape_eq
  simp only [Array.size_map] at hsize
  change _ = (G.alloc _).1.slots.size at hsize
  refine ⟨⟨hi.consistent, ?_, ?_, hi.index_mono hG.index_root, by rw [hi.index_self, hh], ?_⟩, hh⟩
  · rw [hsize]
    simp [alloc, hG.free, hG.size]
  · rw [hslot]
    rfl
  · intro q hq hq1
    have htr : ((upsertWith (fun _ ↦ none) chaseLimit (G, #[]) ⟨1, rootPid, name⟩
        .observed).1.1.index[q]?).isSome → (G.index[q]?).isSome ∨ q = rootPid ∨ q = 1 :=
      tracked_upsertWith (S := fun q ↦ q = rootPid ∨ q = 1) (Or.inl rfl) (by intro _ _ h; cases h)
        chaseLimit G #[] _ .observed (Or.inr rfl) (fun _ ↦ Or.inl rfl) q
    rw [← congrArg Prod.fst (upsert_eq (g := G) (e := ⟨1, rootPid, name⟩))] at htr
    cases hq' : (G.upsert ⟨1, rootPid, name⟩).1.index[q]? with
    | none => rfl
    | some y =>
      rcases htr (by simp [hq']) with hold | hr | h1
      · rw [hG.index_other q hq] at hold
        cases hold
      · exact absurd hr hq
      · exact absurd h1 hq1

theorem Round.rounds {k : UInt32} (hR : Round k G) (name : String) : ∀ n : Nat,
    Round (k + UInt32.ofNat n)
      ((List.replicate n [Op.remove 1 fun _ ↦ false, .upsert ⟨1, rootPid, name⟩]).flatten.foldl
        Op.apply G) := by
  intro n
  induction n generalizing G k with
  | zero => simpa using hR
  | succ n ih =>
    rw [List.replicate_succ, List.flatten_cons, List.foldl_append]
    have hnext := (hR.remove.upsert name).1
    have h := ih hnext
    rwa [show k + 1 + UInt32.ofNat n = k + UInt32.ofNat (n + 1) by rw [UInt32.ofNat_add]; ac_rfl] at h

theorem round_start : Round 0 (run [.upsert ⟨1, rootPid, "a"⟩]) := by
  refine ⟨(reachable_run _).consistent, by decide, by decide, by decide, by decide, ?_⟩
  intro q hq hq1
  have htr : ((upsertWith (fun _ ↦ none) chaseLimit (empty, #[]) ⟨1, rootPid, "a"⟩
      .observed).1.1.index[q]?).isSome → (empty.index[q]?).isSome ∨ q = rootPid ∨ q = 1 :=
    tracked_upsertWith (S := fun q ↦ q = rootPid ∨ q = 1) (Or.inl rfl) (by intro _ _ h; cases h)
      chaseLimit empty #[] _ .observed (Or.inr rfl) (fun _ ↦ Or.inl rfl) q
  rw [← congrArg Prod.fst (upsert_eq (g := empty) (e := ⟨1, rootPid, "a"⟩))] at htr
  cases hq' : (run [.upsert ⟨1, rootPid, "a"⟩]).index[q]? with
  | none => rfl
  | some y =>
    have hrun : run [.upsert ⟨1, rootPid, "a"⟩] = (empty.upsert ⟨1, rootPid, "a"⟩).1 := rfl
    rw [hrun] at hq'
    rcases htr (by rw [hq']; rfl) with hold | hr | h1
    · rw [index_empty, if_neg hq] at hold
      cases hold
    · exact absurd hr hq
    · exact absurd h1 hq1

/-- Upserting pid `1`, then removing it and upserting it again `2^32` times, hands out the first
handle once more, though its node was removed: the slot has been emptied `2^32` times and its
generation has wrapped around. -/
theorem handle_reissued_after_wrap :
    (empty.upsert ⟨1, rootPid, "a"⟩).2 = ⟨1, 0⟩ ∧
    ((empty.upsert ⟨1, rootPid, "a"⟩).1.remove 1 fun _ ↦ false).1.pidOf ⟨1, 0⟩ = none ∧
    (run (.upsert ⟨1, rootPid, "a"⟩ ::
      (List.replicate UInt32.size [.remove 1 fun _ ↦ false, .upsert ⟨1, rootPid, "a"⟩]).flatten)).index[(1 : Pid)]? =
      some ⟨1, 0⟩ := by
  refine ⟨by decide, by decide, ?_⟩
  have h := (round_start.rounds "a" UInt32.size).index_one
  have hwrap : (0 : UInt32) + UInt32.ofNat UInt32.size = 0 := by decide
  have hrun : run [.upsert ⟨1, rootPid, "a"⟩] = Op.apply empty (.upsert ⟨1, rootPid, "a"⟩) := rfl
  rw [hwrap, hrun] at h
  unfold run
  rw [List.foldl_cons]
  exact h

end KeystrokeTally.Proc.Graph
