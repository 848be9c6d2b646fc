import KeystrokeTally.Proofs.Graph.Relink

namespace KeystrokeTally.Proc.Graph

open Relation

variable {g g' : Graph} {p q : Pid} {h t x : Handle} {name : String} {origin : Origin}

def IsRootPid (g : Graph) (q : Pid) : Prop := ∃ x, g.index[q]? = some x ∧ g.up x = none

theorem live_of_index_mono (hw : g.ArenaWf) (hw' : g'.ArenaWf)
    (hmono : ∀ {q : Pid} {x : Handle}, g.index[q]? = some x → g'.index[q]? = some x) (hx : (g.get? x).isSome) :
    (g'.get? x).isSome := by
  obtain ⟨n, hn⟩ := Option.isSome_iff_exists.mp hx
  obtain ⟨n', hn', -⟩ := hw'.index_get (hmono (hw.get_index hn))
  simp [hn']

theorem touch_of_some (hi : g.index[p]? = some h) :
    g.touch p name origin = (g.update h fun n ↦ { n with name := name, origin := origin, seen := g.epoch }, h) := by
  simp [touch, hi]

theorem touch_of_none (hi : g.index[p]? = none) :
    g.touch p name origin =
      ({ (g.alloc ⟨p, name, origin, none, [], g.epoch⟩).1 with
          index := g.index.insert p (g.alloc ⟨p, name, origin, none, [], g.epoch⟩).2 },
        (g.alloc ⟨p, name, origin, none, [], g.epoch⟩).2) := by
  simp only [touch, hi, alloc_index_eq]

theorem alloc_handle_index {j : Nat} {rest : List Nat} {n : Node} (hf : g.free = j :: rest) :
    (g.alloc n).2.index = j := by
  simp [alloc, hf]

theorem ArenaWf.insertNew (ha : g.ArenaWf) {n : Node} (hi : g.index[n.pid]? = none) :
    ({ (g.alloc n).1 with index := g.index.insert n.pid (g.alloc n).2 } : Graph).ArenaWf := by
  have hfree := ha.free_empty
  have hnew := get?_alloc_handle (n := n) hfree
  refine ⟨?_, ?_, ?_, ?_, ?_, ?_, ?_⟩
  · intro q x hq
    simp only [getElem?_insert_pid] at hq
    show ∃ m, (g.alloc n).1.get? x = some m ∧ m.pid = q
    rw [get?_alloc hfree]
    split at hq
    · cases hq
      exact ⟨n, by simp, by assumption⟩
    · obtain ⟨m, hm, rfl⟩ := ha.index_get hq
      have hx : x ≠ (g.alloc n).2 := by
        rintro rfl
        rw [hnew] at hm
        cases hm
      exact ⟨m, by simp [hx, hm], rfl⟩
  · intro x m hm
    change (g.alloc n).1.get? x = some m at hm
    simp only [getElem?_insert_pid]
    rw [get?_alloc hfree] at hm
    split at hm
    · cases hm
      simp [*]
    · have hp : n.pid ≠ m.pid := by
        intro he
        rw [he, ha.get_index hm] at hi
        cases hi
      simp [hp, ha.get_index hm]
  · simp only [getElem?_insert_pid]
    split
    · rfl
    · exact ha.root_index
  · show (g.alloc n).1.free.Nodup
    rw [alloc_free]
    exact ha.free_nodup.sublist (List.tail_sublist _)
  · intro i hi
    change i ∈ (g.alloc n).1.free at hi
    show (g.alloc n).1.EmptySlot i
    rw [alloc_free] at hi
    rw [emptySlot_alloc hfree]
    cases hf : g.free with
    | nil => simp [hf] at hi
    | cons j rest =>
      rw [hf, List.tail_cons] at hi
      have hnd := ha.free_nodup
      rw [hf, List.nodup_cons] at hnd
      refine ⟨ha.free_empty i (by simp [hf, hi]), ?_⟩
      rw [alloc_handle_index hf]
      rintro rfl
      exact hnd.1 hi
  · intro i hi
    change (g.alloc n).1.EmptySlot i at hi
    show i ∈ (g.alloc n).1.free
    rw [emptySlot_alloc hfree] at hi
    rw [alloc_free]
    have hmem := ha.empty_free hi.1
    cases hf : g.free with
    | nil => simp [hf] at hmem
    | cons j rest =>
      rw [hf] at hmem
      rcases List.mem_cons.mp hmem with rfl | hr
      · exact absurd (alloc_handle_index hf).symm hi.2
      · simpa using hr
  · show (g.alloc n).1.slots.countP (·.node.isSome) = (g.index.insert n.pid (g.alloc n).2).size
    rw [liveCount_alloc hfree, ha.live_count, size, Std.TreeMap.size_insert]
    have : g.index.contains n.pid = false := by
      simp [Std.TreeMap.contains_eq_isSome_getElem?, hi]
    simp [this]

section New

variable {n : Node}

theorem get?_insertNew (hfree : g.FreeEmpty) :
    ({ (g.alloc n).1 with index := g.index.insert n.pid (g.alloc n).2 } : Graph).get? x =
      if x = (g.alloc n).2 then some n else g.get? x :=
  get?_alloc hfree

theorem up_insertNew (hfree : g.FreeEmpty) (hpar : n.parent = none) :
    ({ (g.alloc n).1 with index := g.index.insert n.pid (g.alloc n).2 } : Graph).up x = g.up x := by
  unfold up
  rw [get?_insertNew hfree]
  split
  · subst x
    simp [get?_alloc_handle hfree, hpar]
  · rfl

theorem lists_insertNew (hfree : g.FreeEmpty) (hch : n.children = []) {c : Handle} :
    ({ (g.alloc n).1 with index := g.index.insert n.pid (g.alloc n).2 } : Graph).Lists x c ↔
      g.Lists x c := by
  unfold Lists
  rw [get?_insertNew hfree]
  split
  · subst x
    simp [get?_alloc_handle hfree, hch]
  · rfl

theorem root_insertNew (hp : n.pid ≠ rootPid) :
    ({ (g.alloc n).1 with index := g.index.insert n.pid (g.alloc n).2 } : Graph).root = g.root := by
  simp [root, getElem?_insert_pid, hp]

theorem Consistent.insertNew (hw : g.Consistent) (hi : g.index[n.pid]? = none)
    (hp : n.pid ≠ rootPid) (hpar : n.parent = none) (hch : n.children = []) :
    ({ (g.alloc n).1 with index := g.index.insert n.pid (g.alloc n).2 } : Graph).Consistent := by
  have hfree := hw.arena.free_empty
  have hroot : g.root ≠ (g.alloc n).2 := by
    intro he
    obtain ⟨m, hm, -⟩ := hw.arena.root_get
    rw [he, get?_alloc_handle hfree] at hm
    cases hm
  refine ⟨hw.arena.insertNew hi, hw.forest.transfer (root_insertNew hp) ?_
    (fun _ ↦ up_insertNew hfree hpar) (fun _ _ ↦ lists_insertNew hfree hch) ?_ ?_⟩
  · intro x hx
    rw [get?_insertNew hfree]
    split
    · rfl
    · exact hx
  · intro x m hm
    rw [get?_insertNew hfree] at hm
    split at hm
    · cases hm
      simp [hch]
    · exact hw.forest.children_nodup hm
  · rw [root_insertNew hp, get?_insertNew hfree, if_neg hroot]

end New

/-- `g'` has every slot of `g`, at the same generation, and its other slots at generation 0. -/
structure GensKept (g g' : Graph) : Prop where
  gen_eq : ∀ {i : Nat} {s' : Slot}, g'.slots[i]? = some s' →
    s'.generation = ((g.slots[i]?).map (·.generation)).getD 0
  slot_mono : ∀ {i : Nat} {s : Slot}, g.slots[i]? = some s → (g'.slots[i]?).isSome

namespace GensKept

variable {g₁ g₂ : Graph}

theorem refl : GensKept g g := ⟨fun hs ↦ by simp [hs], fun hs ↦ by simp [hs]⟩

theorem trans (h₁ : GensKept g g₁) (h₂ : GensKept g₁ g₂) : GensKept g g₂ where
  gen_eq {i s''} hs := by
    rw [h₂.gen_eq hs]
    cases hs₁ : g₁.slots[i]? with
    | some s' => exact h₁.gen_eq hs₁
    | none =>
      cases hs₀ : g.slots[i]? with
      | none => rfl
      | some s => simpa [hs₁] using h₁.slot_mono hs₀
  slot_mono hs := by
    obtain ⟨s', hs'⟩ := Option.isSome_iff_exists.mp (h₁.slot_mono hs)
    exact h₂.slot_mono hs'

theorem of_sameNodes (hs : SameNodes g g') : GensKept g g' where
  gen_eq {i s'} h := by
    have hi := congrArg (·[i]?) hs.shape_eq
    simp only [Array.getElem?_map, h, Option.map_some] at hi
    obtain ⟨s, hs₀, he⟩ := Option.map_eq_some_iff.mp hi.symm
    rw [hs₀, Option.map_some, Option.getD_some]
    exact (congrArg Prod.fst he).symm
  slot_mono {i s} h := by
    have hi := congrArg (·[i]?) hs.shape_eq
    simp only [Array.getElem?_map, h, Option.map_some] at hi
    obtain ⟨s', hs', -⟩ := Option.map_eq_some_iff.mp hi
    simp [hs']

theorem alloc_gen {n : Node} :
    (g.alloc n).2.generation = ((g.slots[(g.alloc n).2.index]?).map (·.generation)).getD 0 := by
  unfold Graph.alloc
  split
  · rfl
  · simp

theorem alloc (hfree : g.FreeEmpty) {n : Node} (idx : Std.TreeMap Pid Handle compare) :
    GensKept g { (g.alloc n).1 with index := idx } where
  gen_eq {i s'} hs := by
    change (g.alloc n).1.slots[i]? = some s' at hs
    rw [alloc_slots hfree] at hs
    split at hs
    · next hi =>
      cases hs
      rw [hi]
      exact alloc_gen
    · simp [hs]
  slot_mono {i s} hs := by
    change ((g.alloc n).1.slots[i]?).isSome
    rw [alloc_slots hfree]
    split
    · rfl
    · simp [hs]

end GensKept

/-- What giving pid `p` the node `h` guarantees about the graph `g'` made from `g`: it is
consistent, every pid keeps its node, no node found in `g` other than `h` changes its parent
link, and every node created besides `h` has a parent. -/
structure Grown (g g' : Graph) (p : Pid) (h : Handle) : Prop where
  consistent : g'.Consistent
  index_self : g'.index[p]? = some h
  index_mono : ∀ {q : Pid} {x : Handle}, g.index[q]? = some x → g'.index[q]? = some x
  up_frame : ∀ {x}, (g.get? x).isSome → x ≠ h → g'.up x = g.up x
  up_new : ∀ {x}, (g'.get? x).isSome → (g.get? x).isSome = false → x ≠ h → g'.up x ≠ none
  gens : GensKept g g'

/-- An insertion of a pid other than the root's also links its node below a parent. -/
structure Inserted (g g' : Graph) (p : Pid) (h : Handle) : Prop extends Grown g g' p h where
  up_self : p ≠ rootPid → g'.up h ≠ none

namespace Grown

variable {g₁ g₂ : Graph} {ph : Handle}

theorem live_self (hg : Grown g g' p h) : (g'.get? h).isSome := by
  obtain ⟨n, hn, -⟩ := hg.consistent.arena.index_get hg.index_self
  simp [hn]

theorem live_mono (hg : Grown g g' p h) (hw : g.Consistent) (hx : (g.get? x).isSome) :
    (g'.get? x).isSome :=
  live_of_index_mono hw.arena hg.consistent.arena hg.index_mono hx

theorem new_of_index (hg : Grown g g' p h) (hw : g.Consistent) (hq : g.index[q]? = none)
    (hx : g'.index[q]? = some x) : (g.get? x).isSome = false := by
  rcases hn : g.get? x with _ | n
  · rfl
  · have hq' := hg.consistent.arena.pid_eq_of_index (hg.index_mono (hw.arena.get_index hn)) hx
    rw [← hq', hw.arena.get_index hn] at hq
    cases hq

theorem chase (h₁ : Grown g g₁ p h) (h₂ : Inserted g₁ g₂ q ph) (hw : g.Consistent)
    (hq : g₁.index[q]? = none) : Grown g g₂ p h := by
  have hnew := h₂.new_of_index h₁.consistent hq h₂.index_self
  have hne : ∀ {x}, (g₁.get? x).isSome → x ≠ ph := by
    rintro x hx rfl
    rw [hnew] at hx
    cases hx
  have hqr : q ≠ rootPid := by
    rintro rfl
    rw [h₁.consistent.arena.index_root] at hq
    cases hq
  refine ⟨h₂.consistent, h₂.index_mono h₁.index_self, fun hq' ↦ h₂.index_mono (h₁.index_mono hq'), ?_, ?_,
    h₁.gens.trans h₂.gens⟩
  · intro x hx hxh
    have hx₁ := h₁.live_mono hw hx
    rw [h₂.up_frame hx₁ (hne hx₁), h₁.up_frame hx hxh]
  · intro x hx₂ hx hxh
    by_cases hx₁ : (g₁.get? x).isSome
    · rw [h₂.up_frame hx₁ (hne hx₁)]
      exact h₁.up_new hx₁ hx hxh
    · by_cases hxp : x = ph
      · subst x
        exact h₂.up_self hqr
      · exact h₂.up_new hx₂ (by simpa using hx₁) hxp

theorem attach (hg : Grown g g' p h) (ht : (g'.get? t).isSome) (hp : p ≠ rootPid) :
    Inserted g (g'.attach h t) p h := by
  have hs := sameNodes_attach (g := g') (h := h) (p := t)
  have hh := hg.live_self
  obtain ⟨n, hn, hnp⟩ := hg.consistent.arena.index_get hg.index_self
  have hroot : h ≠ g'.root := hg.consistent.arena.ne_root hn (by rw [hnp]; exact hp)
  refine ⟨⟨hg.consistent.attach hh hroot ht, by rw [hs.index_eq]; exact hg.index_self,
    fun hq ↦ by rw [hs.index_eq]; exact hg.index_mono hq, ?_, ?_, hg.gens.trans (.of_sameNodes hs)⟩, ?_⟩
  · intro x hx hxh
    rw [up_attach hh, if_neg hxh]
    exact hg.up_frame hx hxh
  · intro x hx' hx hxh
    rw [up_attach hh, if_neg hxh]
    exact hg.up_new (by rwa [← hs.live_iff]) hx hxh
  · intro _
    rw [up_attach hh, if_pos rfl]
    simp

end Grown

theorem Inserted.isRootPid_iff (hi : Inserted g g' p h) (hw : g.Consistent) :
    g'.IsRootPid q ↔ g.IsRootPid q ∧ (q = rootPid ∨ q ≠ p) := by
  have ha := hi.consistent.arena
  constructor
  · rintro ⟨x, hx, hup⟩
    by_cases hxh : x = h
    · subst hxh
      obtain rfl := ha.pid_eq_of_index hx hi.index_self
      by_cases hq : q = rootPid
      · subst hq
        exact ⟨⟨g.root, hw.arena.index_root, hw.forest.root_up⟩, Or.inl rfl⟩
      · exact absurd hup (hi.up_self hq)
    cases hq : g.index[q]? with
    | some y =>
      obtain rfl : y = x := Option.some.inj ((hi.index_mono hq).symm.trans hx)
      obtain ⟨n, hn, -⟩ := hw.arena.index_get hq
      refine ⟨⟨y, hq, by rw [← hi.up_frame (by simp [hn]) hxh, hup]⟩, Or.inr ?_⟩
      rintro rfl
      exact hxh (Option.some.inj (hx.symm.trans hi.index_self))
    | none =>
      obtain ⟨n, hn, -⟩ := ha.index_get hx
      exact absurd hup (hi.up_new (by simp [hn]) (hi.new_of_index hw hq hx) hxh)
  · rintro ⟨⟨x, hx, hup⟩, hq⟩
    refine ⟨x, hi.index_mono hx, ?_⟩
    by_cases hxh : x = h
    · subst hxh
      rcases hq with rfl | hq
      · obtain rfl : x = g'.root := Option.some.inj ((hi.index_mono hx).symm.trans ha.index_root)
        exact hi.consistent.forest.root_up
      · exact absurd (ha.pid_eq_of_index (hi.index_mono hx) hi.index_self) hq
    · obtain ⟨n, hn, -⟩ := hw.arena.index_get hx
      rw [hi.up_frame (by simp [hn]) hxh, hup]

theorem Consistent.root_live (hw : g.Consistent) : (g.get? g.root).isSome := by
  obtain ⟨n, hn, -⟩ := hw.arena.root_get
  simp [hn]

theorem Consistent.grown_touch (hw : g.Consistent) (hp : p ≠ rootPid) (name : String)
    (origin : Origin) : Grown g (g.touch p name origin).1 p (g.touch p name origin).2 := by
  cases hi : g.index[p]? with
  | some h₀ =>
    rw [touch_of_some hi]
    obtain ⟨m, hm, hmp⟩ := hw.arena.index_get hi
    have hr : h₀ ≠ g.root := hw.arena.ne_root hm (by rw [hmp]; exact hp)
    have hs := sameNodes_update (g := g) (h := h₀)
      (f := fun n ↦ { n with name := name, origin := origin, seen := g.epoch }) (by intro; rfl)
    refine ⟨Wf.update hw (by intro; rfl) (by intro; rfl) (by intro; rfl) (fun he ↦ absurd he hr),
      by rw [hs.index_eq]; exact hi, fun hq ↦ by rw [hs.index_eq]; exact hq,
      fun _ _ ↦ up_update_of_parent (by intro; rfl), ?_, .of_sameNodes hs⟩
    intro x hx hx' _
    rw [hs.live_iff, hx'] at hx
    cases hx
  | none =>
    rw [touch_of_none hi]
    have hfree := hw.arena.free_empty
    refine ⟨hw.insertNew hi hp rfl rfl, by simp, ?_,
      fun _ _ ↦ up_insertNew hfree rfl, ?_, .alloc hfree _⟩
    · intro q x hq
      rw [getElem?_insert_pid, if_neg]
      · exact hq
      · rintro rfl
        rw [hi] at hq
        cases hq
    · intro x hx hx' hne
      rw [get?_insertNew hfree, if_neg hne, hx'] at hx
      cases hx

theorem Consistent.inserted_stampRoot (hw : g.Consistent) :
    Inserted g (g.update g.root fun n ↦ { n with seen := g.epoch }) rootPid g.root := by
  have hs := sameNodes_update (g := g) (h := g.root) (f := fun n ↦ { n with seen := g.epoch })
    (by intro; rfl)
  refine ⟨⟨Wf.update hw (by intro; rfl) (by intro; rfl) (by intro; rfl) (fun _ _ ↦ rfl),
    by rw [hs.index_eq]; exact hw.arena.index_root, fun hq ↦ by rw [hs.index_eq]; exact hq,
    fun _ _ ↦ up_update_of_parent (by intro; rfl), ?_, .of_sameNodes hs⟩, fun hr ↦ absurd rfl hr⟩
  intro x hx hx' _
  rw [hs.live_iff, hx'] at hx
  cases hx

section Upsert

variable {lookup : Pid → Option Entry} {fuel : Nat} {notes : Array Note} {e : Entry}

theorem upsertWith_root (he : e.pid = rootPid) :
    upsertWith lookup fuel (g, notes) e origin =
      ((g.update g.root fun n ↦ { n with seen := g.epoch }, notes), g.root) := by
  rw [upsertWith.eq_1]
  simp [he]

theorem attachNoting_fst {a b : Pid} : (g.attachNoting notes h t a b).1 = g.attach h t := rfl

theorem inserted_upsertWith (hlookup : ∀ q pe, lookup q = some pe → pe.pid = q) :
    ∀ (fuel : Nat) (g : Graph) (notes : Array Note) (e : Entry) (origin : Origin), g.Consistent →
      Inserted g (upsertWith lookup fuel (g, notes) e origin).1.1 e.pid
        (upsertWith lookup fuel (g, notes) e origin).2
  | fuel, g, notes, e, origin, hw => by
    by_cases he : e.pid = rootPid
    · rw [upsertWith_root he, he]
      exact hw.inserted_stampRoot
    rw [upsertWith.eq_1]
    simp only [beq_iff_eq, he, if_false]
    have hg := hw.grown_touch he e.name origin
    rcases ht : g.touch e.pid e.name origin with ⟨g₁, h₁⟩
    rw [ht] at hg
    cases fuel with
    | zero => exact hg.attach hg.consistent.root_live he
    | succ k =>
      dsimp only
      cases hp : g₁.index[e.parent]? with
      | some ph =>
        obtain ⟨n, hn, -⟩ := hg.consistent.arena.index_get hp
        exact hg.attach (by simp [hn]) he
      | none =>
        cases hl : lookup e.parent with
        | some pe =>
          have h₂ := inserted_upsertWith hlookup k g₁ notes pe .observed hg.consistent
          rw [hlookup _ _ hl] at h₂
          exact (hg.chase h₂ hw hp).attach h₂.live_self he
        | none =>
          have h₂ := inserted_upsertWith hlookup k g₁ (notes.push (.placeholder e.parent))
            ⟨e.parent, rootPid, ""⟩ .placeholder hg.consistent
          exact (hg.chase h₂ hw hp).attach h₂.live_self he

end Upsert

end KeystrokeTally.Proc.Graph
