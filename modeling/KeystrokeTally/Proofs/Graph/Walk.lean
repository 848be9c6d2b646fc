import KeystrokeTally.Proofs.Graph.Run

namespace KeystrokeTally.Proc.Graph

open Relation

variable {g : Graph} {h₀ h x c : Handle} {n : Node}

def slotHandle (g : Graph) (i : Nat) : Handle := ⟨i, ((g.slots[i]?).map (·.generation)).getD 0⟩

def liveSet (g : Graph) : Finset Handle :=
  ((Finset.range g.slots.size).filter fun i ↦ ((g.slots[i]?).bind (·.node)).isSome).image g.slotHandle

theorem mem_liveSet : x ∈ g.liveSet ↔ (g.get? x).isSome := by
  simp only [liveSet, Finset.mem_image, Finset.mem_filter, Finset.mem_range]
  constructor
  · rintro ⟨i, ⟨hi, hs⟩, rfl⟩
    obtain ⟨s, hs'⟩ := Option.isSome_iff_exists.mp (Option.isSome_of_isSome_bind hs)
    simp_all [get?, slotHandle]
  · intro hx
    obtain ⟨m, hm⟩ := Option.isSome_iff_exists.mp hx
    obtain ⟨s, hs, hg, hn⟩ := get?_eq_some_iff.mp hm
    refine ⟨x.index, ⟨(Array.getElem?_eq_some_iff.mp hs).1, by simp [hs, hn]⟩, ?_⟩
    simp [slotHandle, hs, hg]

theorem card_liveSet_le : g.liveSet.card ≤ g.slots.size :=
  (Finset.card_image_le).trans ((Finset.card_filter_le _ _).trans (Finset.card_range _).le)

def unvisited (g : Graph) (visited : Std.HashSet Handle) : Nat :=
  (g.liveSet.filter fun x ↦ x ∉ visited).card

theorem unvisited_insert_live {visited : Std.HashSet Handle} (hc : (g.get? c).isSome)
    (hv : c ∉ visited) : g.unvisited (visited.insert c) + 1 = g.unvisited visited := by
  have hset : (g.liveSet.filter fun x ↦ x ∉ visited.insert c) =
      (g.liveSet.filter fun x ↦ x ∉ visited).erase c := by
    ext x
    simp only [Finset.mem_filter, Finset.mem_erase, Std.HashSet.mem_insert, beq_iff_eq, not_or]
    tauto
  rw [unvisited, unvisited, hset, Finset.card_erase_add_one]
  exact Finset.mem_filter.mpr ⟨mem_liveSet.mpr hc, hv⟩

theorem unvisited_insert_dead {visited : Std.HashSet Handle} (hc : g.get? c = none) :
    g.unvisited (visited.insert c) = g.unvisited visited := by
  unfold unvisited
  congr 1
  ext x
  simp only [Finset.mem_filter, Std.HashSet.mem_insert, beq_iff_eq, not_or, and_congr_right_iff]
  intro hx
  have : c ≠ x := by
    rintro rfl
    simp [mem_liveSet, hc] at hx
  tauto

/-- One child handled by the walk as `walkDown` handles it: a handle seen before is skipped, a
live one is pushed and recorded, and either way it is now visited. -/
def visitChild (g : Graph) (acc : List Handle × Std.HashSet Handle × List (Pid × String))
    (c : Handle) : List Handle × Std.HashSet Handle × List (Pid × String) :=
  if acc.2.1.contains c then acc
  else match g.get? c with
    | some m => (c :: acc.1, acc.2.1.insert c, (m.pid, m.name) :: acc.2.2)
    | none => (acc.1, acc.2.1.insert c, acc.2.2)

section Equations

variable {fuel : Nat} {stack : List Handle} {visited : Std.HashSet Handle} {found : List (Pid × String)}

theorem walkDown_zero : g.walkDown 0 stack visited found = found := by
  rw [walkDown]

theorem walkDown_nil : g.walkDown (fuel + 1) [] visited found = found := by
  rw [walkDown]

theorem walkDown_dead (hh : g.get? h = none) :
    g.walkDown (fuel + 1) (h :: stack) visited found = g.walkDown fuel stack visited found := by
  rw [walkDown, hh]

theorem walkDown_live (hh : g.get? h = some n) :
    g.walkDown (fuel + 1) (h :: stack) visited found =
      g.walkDown fuel (n.children.foldl g.visitChild (stack, visited, found)).1
        (n.children.foldl g.visitChild (stack, visited, found)).2.1
        (n.children.foldl g.visitChild (stack, visited, found)).2.2 := by
  rw [walkDown, hh]
  rfl

end Equations

/-- A state of the walk from `h₀` between two pops. -/
structure WalkInv (g : Graph) (h₀ : Handle) (stack : List Handle) (visited : Std.HashSet Handle)
    (found : List (Pid × String)) : Prop where
  stack_visited : ∀ s ∈ stack, s ∈ visited
  closed : ∀ {v n}, v ∈ visited → g.get? v = some n → v ∉ stack → ∀ c ∈ n.children, c ∈ visited
  recorded : ∀ {v n}, v ∈ visited → g.get? v = some n → v ≠ h₀ → (n.pid, n.name) ∈ found
  start : h₀ ∈ visited

/-- A state of the walk while it visits the children of the popped node `h`. -/
structure VisitInv (g : Graph) (h₀ h : Handle) (stack : List Handle) (visited : Std.HashSet Handle)
    (found : List (Pid × String)) : Prop where
  stack_visited : ∀ s ∈ stack, s ∈ visited
  closed : ∀ {v n}, v ∈ visited → g.get? v = some n → v ≠ h → v ∉ stack →
    ∀ c ∈ n.children, c ∈ visited
  recorded : ∀ {v n}, v ∈ visited → g.get? v = some n → v ≠ h₀ → (n.pid, n.name) ∈ found
  start : h₀ ∈ visited

variable {stack : List Handle} {visited : Std.HashSet Handle} {found : List (Pid × String)}

theorem VisitInv.visitChild (hi : VisitInv g h₀ h stack visited found) :
    VisitInv g h₀ h (g.visitChild (stack, visited, found) c).1 (g.visitChild (stack, visited, found) c).2.1
        (g.visitChild (stack, visited, found) c).2.2 ∧
      c ∈ (g.visitChild (stack, visited, found) c).2.1 ∧
      (∀ v ∈ visited, v ∈ (g.visitChild (stack, visited, found) c).2.1) ∧
      (g.visitChild (stack, visited, found) c).1.length + g.unvisited (g.visitChild (stack, visited, found) c).2.1 =
        stack.length + g.unvisited visited := by
  unfold Graph.visitChild
  by_cases hv : c ∈ visited
  · rw [if_pos (Std.HashSet.mem_iff_contains.mp hv)]
    exact ⟨hi, hv, fun _ hv ↦ hv, rfl⟩
  rw [if_neg (by rwa [← Std.HashSet.mem_iff_contains])]
  have hsub : ∀ v ∈ visited, v ∈ visited.insert c := fun v hv ↦ Std.HashSet.mem_insert.mpr (Or.inr hv)
  have hself : c ∈ visited.insert c := Std.HashSet.mem_insert.mpr (Or.inl (beq_self_eq_true c))
  have hnew : ∀ {v}, v ∈ visited.insert c → v ≠ c → v ∈ visited := fun hv hvc ↦
    (Std.HashSet.mem_insert.mp hv).resolve_left fun he ↦ hvc (beq_iff_eq.mp he).symm
  cases hc : g.get? c with
  | some m =>
    refine ⟨⟨?_, ?_, ?_, hsub _ hi.start⟩, hself, hsub, ?_⟩
    · rintro s (_ | ⟨_, hs⟩)
      · exact hself
      · exact hsub _ (hi.stack_visited s hs)
    · intro v n' hv hn' hvh hvs
      have hvc : v ≠ c := fun he ↦ hvs (he ▸ List.mem_cons_self)
      exact fun c' hc' ↦ hsub _ (hi.closed (hnew hv hvc) hn' hvh (fun hs ↦ hvs (List.mem_cons_of_mem _ hs)) c' hc')
    · intro v n' hv hn' hv₀
      by_cases hvc : v = c
      · subst hvc
        rw [hc] at hn'
        cases hn'
        exact List.mem_cons_self
      · exact List.mem_cons_of_mem _ (hi.recorded (hnew hv hvc) hn' hv₀)
    · have := unvisited_insert_live (g := g) (by simp [hc]) hv
      simp only [List.length_cons]
      omega
  | none =>
    refine ⟨⟨fun s hs ↦ hsub _ (hi.stack_visited s hs), ?_, ?_, hsub _ hi.start⟩, hself, hsub, ?_⟩
    · intro v n' hv hn' hvh hvs
      have hvc : v ≠ c := by
        rintro rfl
        rw [hc] at hn'
        cases hn'
      exact fun c' hc' ↦ hsub _ (hi.closed (hnew hv hvc) hn' hvh hvs c' hc')
    · intro v n' hv hn' hv₀
      have hvc : v ≠ c := by
        rintro rfl
        rw [hc] at hn'
        cases hn'
      exact hi.recorded (hnew hv hvc) hn' hv₀
    · rw [unvisited_insert_dead hc]

theorem visitChild_foldl_mono : ∀ (cs : List Handle) (acc : List Handle × Std.HashSet Handle × List (Pid × String)),
    ∀ v ∈ acc.2.1, v ∈ (cs.foldl g.visitChild acc).2.1
  | [], _, _, hv => hv
  | c :: cs, acc, v, hv => visitChild_foldl_mono cs _ v (by
      unfold Graph.visitChild
      split
      · exact hv
      · split <;> exact Std.HashSet.mem_insert.mpr (Or.inr hv))

theorem VisitInv.foldl : ∀ (cs : List Handle) {stack : List Handle} {visited : Std.HashSet Handle}
    {found : List (Pid × String)}, VisitInv g h₀ h stack visited found →
    VisitInv g h₀ h (cs.foldl g.visitChild (stack, visited, found)).1
        (cs.foldl g.visitChild (stack, visited, found)).2.1 (cs.foldl g.visitChild (stack, visited, found)).2.2 ∧
      (∀ c ∈ cs, c ∈ (cs.foldl g.visitChild (stack, visited, found)).2.1) ∧
      (cs.foldl g.visitChild (stack, visited, found)).1.length +
          g.unvisited (cs.foldl g.visitChild (stack, visited, found)).2.1 =
        stack.length + g.unvisited visited
  | [], _, _, _, hi => ⟨hi, (fun _ h ↦ nomatch h), rfl⟩
  | c :: cs, stack, visited, found, hi => by
    obtain ⟨hi₁, hc, -, hm₁⟩ := hi.visitChild (c := c)
    obtain ⟨hi₂, hall, hm₂⟩ := VisitInv.foldl cs hi₁
    refine ⟨hi₂, ?_, hm₂.trans hm₁⟩
    rintro c' (_ | ⟨_, hc'⟩)
    · exact visitChild_foldl_mono cs _ c hc
    · exact hall c' hc'

theorem WalkInv.pop (hi : WalkInv g h₀ (h :: stack) visited found) (hh : g.get? h = some n) :
    WalkInv g h₀ (n.children.foldl g.visitChild (stack, visited, found)).1
        (n.children.foldl g.visitChild (stack, visited, found)).2.1
        (n.children.foldl g.visitChild (stack, visited, found)).2.2 ∧
      (n.children.foldl g.visitChild (stack, visited, found)).1.length +
          g.unvisited (n.children.foldl g.visitChild (stack, visited, found)).2.1 + 1 =
        (h :: stack).length + g.unvisited visited := by
  have hv : VisitInv g h₀ h stack visited found :=
    ⟨fun s hs ↦ hi.stack_visited s (List.mem_cons_of_mem _ hs),
      fun hv hn hvh hvs ↦ hi.closed hv hn (by simp [hvh, hvs]), hi.recorded, hi.start⟩
  obtain ⟨hi', hall, hm⟩ := hv.foldl n.children
  refine ⟨⟨hi'.stack_visited, fun {v} {n'} hv' hn' hvs ↦ ?_, hi'.recorded, hi'.start⟩, ?_⟩
  · by_cases hvh : v = h
    · subst hvh
      rw [hh] at hn'
      cases hn'
      exact hall
    · exact hi'.closed hv' hn' hvh hvs
  · simp only [List.length_cons]
    omega

theorem WalkInv.popDead (hi : WalkInv g h₀ (h :: stack) visited found) (hh : g.get? h = none) :
    WalkInv g h₀ stack visited found :=
  ⟨fun s hs ↦ hi.stack_visited s (List.mem_cons_of_mem _ hs),
    fun {v} {n} hv hn hvs ↦ hi.closed hv hn (by
      rintro (_ | ⟨_, hs⟩)
      · rw [hh] at hn
        cases hn
      · exact hvs hs),
    hi.recorded, hi.start⟩

theorem walkDown_spec : ∀ (fuel : Nat) {stack : List Handle} {visited : Std.HashSet Handle}
    {found : List (Pid × String)}, WalkInv g h₀ stack visited found →
    stack.length + g.unvisited visited < fuel →
    ∃ visited' found', WalkInv g h₀ [] visited' found' ∧ g.walkDown fuel stack visited found = found'
  | 0, _, _, _, _, hf => absurd hf (Nat.not_lt_zero _)
  | fuel + 1, [], visited, found, hi, _ => ⟨visited, found, hi, walkDown_nil⟩
  | fuel + 1, h :: stack, visited, found, hi, hf => by
    cases hh : g.get? h with
    | none =>
      rw [walkDown_dead hh]
      exact walkDown_spec fuel (hi.popDead hh) (by simp only [List.length_cons] at hf; omega)
    | some n =>
      rw [walkDown_live hh]
      obtain ⟨hi', hm⟩ := hi.pop hh
      exact walkDown_spec fuel hi' (by omega)

theorem WalkInv.below (hi : WalkInv g h₀ [] visited found) (hw : g.Consistent)
    (hx : ReflTransGen g.Link x h₀) : x ∈ visited := by
  induction hx using ReflTransGen.head_induction_on with
  | refl => exact hi.start
  | head hxy _ ih =>
    obtain ⟨m, hm, hxm⟩ := (hw.forest.parent_lists hxy).resolve_right List.not_mem_nil
    exact hi.closed ih hm List.not_mem_nil _ hxm

theorem walkInv_start : WalkInv g h₀ [h₀] ((∅ : Std.HashSet Handle).insert h₀) [] := by
  have hmem : ∀ {v}, v ∈ (∅ : Std.HashSet Handle).insert h₀ → v = h₀ := fun hv ↦
    (beq_iff_eq.mp ((Std.HashSet.mem_insert.mp hv).resolve_right Std.HashSet.not_mem_empty)).symm
  refine ⟨?_, fun hv _ hvs ↦ absurd (hmem hv ▸ List.mem_cons_self) hvs, fun hv _ hv₀ ↦ absurd (hmem hv) hv₀,
    Std.HashSet.mem_insert_self⟩
  rintro s (_ | ⟨_, hs⟩)
  · exact Std.HashSet.mem_insert_self
  · cases hs

theorem Consistent.mem_descendants (hw : g.Consistent) {p : Pid} (hi : g.index[p]? = some h₀)
    (hx : g.get? x = some n) (hbelow : TransGen g.Link x h₀) : (n.pid, n.name) ∈ g.descendants p := by
  obtain ⟨n₀, hn₀, -⟩ := hw.arena.index_get hi
  have hfuel : [h₀].length + g.unvisited ((∅ : Std.HashSet Handle).insert h₀) < g.slots.size + 1 := by
    have h₁ := unvisited_insert_live (g := g) (c := h₀) (by simp [hn₀]) Std.HashSet.not_mem_empty
    have h₂ : g.unvisited ∅ = g.liveSet.card := by
      rw [unvisited, Finset.filter_true_of_mem fun _ _ ↦ Std.HashSet.not_mem_empty]
    have := card_liveSet_le (g := g)
    simp only [List.length_singleton]
    omega
  obtain ⟨visited, found, hend, hrun⟩ := walkDown_spec _ walkInv_start hfuel
  have hne : x ≠ h₀ := by
    rintro rfl
    exact hw.forest.acyclic x hbelow
  simp only [descendants, hi, List.mem_mergeSort, List.mem_eraseDups, hrun]
  exact hend.recorded (hend.below hw hbelow.to_reflTransGen) hx hne

def RecordsOthers (g : Graph) (h₀ : Handle) (visited : Std.HashSet Handle) (found : List (Pid × String)) : Prop :=
  h₀ ∈ visited ∧ ∀ a ∈ found, ∃ v m, v ≠ h₀ ∧ g.get? v = some m ∧ a = (m.pid, m.name)

theorem RecordsOthers.visitChild {acc : List Handle × Std.HashSet Handle × List (Pid × String)}
    (hr : RecordsOthers g h₀ acc.2.1 acc.2.2) (c : Handle) :
    RecordsOthers g h₀ (g.visitChild acc c).2.1 (g.visitChild acc c).2.2 := by
  obtain ⟨hstart, hfound⟩ := hr
  unfold Graph.visitChild
  split
  case isTrue => exact ⟨hstart, hfound⟩
  case isFalse hc =>
    split
    case h_1 m hm =>
      refine ⟨Std.HashSet.mem_insert.mpr (Or.inr hstart), ?_⟩
      rintro a (_ | ⟨_, ha⟩)
      · refine ⟨c, m, ?_, hm, rfl⟩
        rintro rfl
        exact hc (Std.HashSet.contains_iff_mem.mpr hstart)
      · exact hfound a ha
    case h_2 => exact ⟨Std.HashSet.mem_insert.mpr (Or.inr hstart), hfound⟩

theorem RecordsOthers.foldl (cs : List Handle) :
    ∀ acc : List Handle × Std.HashSet Handle × List (Pid × String), RecordsOthers g h₀ acc.2.1 acc.2.2 →
      RecordsOthers g h₀ (cs.foldl g.visitChild acc).2.1 (cs.foldl g.visitChild acc).2.2 := by
  induction cs with
  | nil => exact fun _ hr ↦ hr
  | cons c cs ih => exact fun acc hr ↦ ih _ (hr.visitChild c)

theorem RecordsOthers.walkDown : ∀ (fuel : Nat) (stack : List Handle) (visited : Std.HashSet Handle)
    (found : List (Pid × String)), RecordsOthers g h₀ visited found →
    ∀ a ∈ g.walkDown fuel stack visited found, ∃ v m, v ≠ h₀ ∧ g.get? v = some m ∧ a = (m.pid, m.name)
  | 0, _, _, _, hr => by
    rw [walkDown_zero]
    exact hr.2
  | _ + 1, [], _, _, hr => by
    rw [walkDown_nil]
    exact hr.2
  | fuel + 1, h :: stack, visited, found, hr => by
    cases hh : g.get? h with
    | none =>
      rw [walkDown_dead hh]
      exact RecordsOthers.walkDown fuel stack visited found hr
    | some n =>
      rw [walkDown_live hh]
      exact RecordsOthers.walkDown fuel _ _ _ (RecordsOthers.foldl n.children (stack, visited, found) hr)

theorem Consistent.not_mem_descendants (hw : g.Consistent) (p : Pid) : p ∉ (g.descendants p).map Prod.fst := by
  intro hp
  obtain ⟨⟨q, s⟩, hmem, rfl⟩ := List.mem_map.mp hp
  cases hi : g.index[q]? with
  | none => simp [descendants, hi] at hmem
  | some h₀ =>
    simp only [descendants, hi, List.mem_mergeSort, List.mem_eraseDups] at hmem
    have hstart : RecordsOthers g h₀ ((∅ : Std.HashSet Handle).insert h₀) [] :=
      ⟨Std.HashSet.mem_insert_self, fun _ h ↦ absurd h List.not_mem_nil⟩
    obtain ⟨v, m, hne, hm, hpm⟩ := hstart.walkDown _ [h₀] _ _ _ hmem
    have hv := hw.arena.get_index hm
    rw [← (Prod.mk.inj hpm).1, hi] at hv
    exact hne (Option.some.inj hv).symm

/-- The walk from `h₀` keeps on its stack only `h₀` and nodes below it, and records only nodes
strictly below it. -/
def RecordsBelow (g : Graph) (h₀ : Handle) (stack : List Handle) (found : List (Pid × String)) : Prop :=
  (∀ s ∈ stack, ReflTransGen g.Link s h₀) ∧
    ∀ a ∈ found, ∃ v m, TransGen g.Link v h₀ ∧ g.get? v = some m ∧ a = (m.pid, m.name)

theorem RecordsBelow.visitChild (hw : g.Consistent) (hh : ReflTransGen g.Link h h₀) (hn : g.get? h = some n)
    {acc : List Handle × Std.HashSet Handle × List (Pid × String)} (hr : RecordsBelow g h₀ acc.1 acc.2.2)
    {c : Handle} (hc : c ∈ n.children) :
    RecordsBelow g h₀ (g.visitChild acc c).1 (g.visitChild acc c).2.2 := by
  obtain ⟨hstack, hfound⟩ := hr
  have hbelow : TransGen g.Link c h₀ := TransGen.head' (hw.forest.lists_link ⟨n, hn, hc⟩) hh
  unfold Graph.visitChild
  split
  case isTrue => exact ⟨hstack, hfound⟩
  case isFalse =>
    split
    case h_1 m hm =>
      refine ⟨?_, ?_⟩
      · rintro s (_ | ⟨_, hs⟩)
        · exact hbelow.to_reflTransGen
        · exact hstack s hs
      · rintro a (_ | ⟨_, ha⟩)
        · exact ⟨c, m, hbelow, hm, rfl⟩
        · exact hfound a ha
    case h_2 => exact ⟨hstack, hfound⟩

theorem RecordsBelow.foldl (hw : g.Consistent) (hh : ReflTransGen g.Link h h₀) (hn : g.get? h = some n) :
    ∀ cs : List Handle, (∀ c ∈ cs, c ∈ n.children) →
    ∀ acc : List Handle × Std.HashSet Handle × List (Pid × String), RecordsBelow g h₀ acc.1 acc.2.2 →
      RecordsBelow g h₀ (cs.foldl g.visitChild acc).1 (cs.foldl g.visitChild acc).2.2
  | [], _, _, hr => hr
  | c :: cs, hcs, _, hr =>
    RecordsBelow.foldl hw hh hn cs (fun c' hc' ↦ hcs c' (List.mem_cons_of_mem _ hc')) _
      (hr.visitChild hw hh hn (hcs c List.mem_cons_self))

theorem RecordsBelow.walkDown (hw : g.Consistent) : ∀ (fuel : Nat) (stack : List Handle)
    (visited : Std.HashSet Handle) (found : List (Pid × String)), RecordsBelow g h₀ stack found →
    ∀ a ∈ g.walkDown fuel stack visited found, ∃ v m, TransGen g.Link v h₀ ∧ g.get? v = some m ∧ a = (m.pid, m.name)
  | 0, _, _, _, hr => by
    rw [walkDown_zero]
    exact hr.2
  | _ + 1, [], _, _, hr => by
    rw [walkDown_nil]
    exact hr.2
  | fuel + 1, h :: stack, visited, found, hr => by
    have hpop : RecordsBelow g h₀ stack found := ⟨fun s hs ↦ hr.1 s (List.mem_cons_of_mem _ hs), hr.2⟩
    cases hh : g.get? h with
    | none =>
      rw [walkDown_dead hh]
      exact RecordsBelow.walkDown hw fuel stack visited found hpop
    | some n =>
      rw [walkDown_live hh]
      exact RecordsBelow.walkDown hw fuel _ _ _
        (RecordsBelow.foldl hw (hr.1 h List.mem_cons_self) hh n.children (fun _ hc ↦ hc) (stack, visited, found) hpop)

theorem Consistent.mem_descendants_iff (hw : g.Consistent) {p : Pid} {a : Pid × String} :
    a ∈ g.descendants p ↔
      ∃ h₀ v m, g.index[p]? = some h₀ ∧ g.get? v = some m ∧ TransGen g.Link v h₀ ∧ a = (m.pid, m.name) := by
  constructor
  · intro ha
    cases hi : g.index[p]? with
    | none => simp [descendants, hi] at ha
    | some h₀ =>
      simp only [descendants, hi, List.mem_mergeSort, List.mem_eraseDups] at ha
      have hstart : RecordsBelow g h₀ [h₀] [] :=
        ⟨fun s hs ↦ (List.mem_singleton.mp hs) ▸ ReflTransGen.refl, fun _ h ↦ absurd h List.not_mem_nil⟩
      obtain ⟨v, m, hbelow, hm, rfl⟩ := hstart.walkDown hw _ [h₀] _ _ _ ha
      exact ⟨h₀, v, m, rfl, hm, hbelow, rfl⟩
  · rintro ⟨h₀, v, m, hi, hm, hbelow, rfl⟩
    exact hw.mem_descendants hi hm hbelow

end KeystrokeTally.Proc.Graph
