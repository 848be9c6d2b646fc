import KeystrokeTally.Proofs.Classify.Tiers

namespace KeystrokeTally.Classify

open Proc (Pid Graph)
open Config (GroupSpec)

theorem lowerChar_ne_nil (c : Char) : Text.lowerChar c ≠ [] := by
  unfold Text.lowerChar
  split
  · simp
  · split <;> simp

theorem lowerFrom_eq_nil_iff (before cs : List Char) : Text.lowerFrom before cs = [] ↔ cs = [] := by
  cases cs with
  | nil => simp [Text.lowerFrom]
  | cons c rest =>
    simp only [Text.lowerFrom, List.append_eq_nil_iff, reduceCtorEq, iff_false, not_and]
    intro hhere
    split at hhere
    · simp at hhere
    · exact absurd hhere (lowerChar_ne_nil c)

theorem lower_eq_empty_iff (s : String) : Text.lower s = "" ↔ s = "" := by
  rw [Text.lower, String.ofList_eq_empty_iff, lowerFrom_eq_nil_iff, String.toList_eq_nil_iff]

theorem names_empty_iff (p : String) : Names p "" ↔ p = "" := by
  have hempty : Text.lower "" = "" := (lower_eq_empty_iff "").mpr rfl
  rw [Names, hempty, lower_eq_empty_iff]

theorem firstId_eq_some {specs : List GroupSpec} {P : GroupSpec → Prop} {id : GroupId}
    (h : firstId specs P = some id) : ∃ s ∈ specs, s.id = id ∧ P s := by
  classical
  unfold firstId at h
  obtain ⟨s, hs, rfl⟩ := Option.map_eq_some_iff.mp h
  have hP := List.find?_some hs
  exact ⟨s, List.mem_of_find?_eq_some hs, rfl, by simpa using hP⟩

theorem known_owner {owner : Option Pid} {o : Pid} (h : owner.filter (· != 0) = some o) :
    owner = some o ∧ o ≠ 0 := by
  obtain ⟨howner, hne⟩ := Option.filter_eq_some_iff.mp h
  exact ⟨howner, by simpa using hne⟩

/-- A match rests on a resolved name: a terminal match on a process strictly below a known
owner whose name is not empty, a process match on the known owner's name, not empty, and a
class match on a class that is not empty; a pattern of the matched group names that name. -/
def MatchedByName (specs : List GroupSpec) (g : Graph) (className : String) (owner : Option Pid) :
    Match → Prop
  | ⟨id, .terminalDescendant⟩ => ∃ o, owner = some o ∧ o ≠ 0 ∧
      ∃ n ∈ (g.descendants o).map (·.2), n ≠ "" ∧ ∃ s ∈ specs, s.id = id ∧ ∃ p ∈ s.terminalProcesses, Names p n
  | ⟨id, .process⟩ => ∃ o, owner = some o ∧ o ≠ 0 ∧ g.nameOf o ≠ "" ∧
      ∃ s ∈ specs, s.id = id ∧ ∃ p ∈ s.processes, Names p (g.nameOf o)
  | ⟨id, .windowClass⟩ => className ≠ "" ∧ ∃ s ∈ specs, s.id = id ∧ ∃ p ∈ s.windowClasses, Names p className

/-- A terminal match of an empty name: the matched group has an empty terminal pattern, and a
process with an empty name lies below the known owner. -/
def EmptyTerminalMatch (specs : List GroupSpec) (g : Graph) (owner : Option Pid) (m : Match) : Prop :=
  m.tier = .terminalDescendant ∧ (∃ s ∈ specs, s.id = m.group ∧ "" ∈ s.terminalProcesses) ∧
    ∃ o, owner = some o ∧ o ≠ 0 ∧ "" ∈ (g.descendants o).map (·.2)

/-- On every graph, for any class and owner and over the groups of any pattern lists: every match
rests on a non-empty name, the known owner's own, the window's class or that of a process below
the owner, except a terminal match in which an empty terminal pattern names a process below the
owner whose name is empty. -/
theorem classify_matched_by_name (specs : List GroupSpec) (g : Graph) (className : String)
    (owner : Option Pid) {m : Match} (h : classify ⟨specs.map GroupSpec.toGroup⟩ g className owner = some m) :
    MatchedByName specs g className owner m ∨ EmptyTerminalMatch specs g owner m := by
  unfold classify at h
  dsimp only at h
  split at h
  case h_1 id ht =>
    cases h
    unfold terminalTier at ht
    split at ht
    case isFalse => cases ht
    case isTrue =>
      obtain ⟨o, ho, hmatch⟩ := Option.bind_eq_some_iff.mp ht
      obtain ⟨howner, hne⟩ := known_owner ho
      rw [matchTerminal_eq] at hmatch
      obtain ⟨s, hs, rfl, p, hp, n, hn, hpn⟩ := firstId_eq_some hmatch
      by_cases hempty : n = ""
      · subst hempty
        obtain rfl := (names_empty_iff p).mp hpn
        exact .inr ⟨rfl, ⟨s, hs, rfl, hp⟩, o, howner, hne, hn⟩
      · exact .inl ⟨o, howner, hne, n, hn, hempty, s, hs, rfl, p, hp, hpn⟩
  case h_2 =>
    split at h
    case h_1 id hproc =>
      cases h
      obtain ⟨o, ho, hmatch⟩ := Option.bind_eq_some_iff.mp hproc
      obtain ⟨howner, hne⟩ := known_owner ho
      rw [matchProcess_eq] at hmatch
      obtain ⟨s, hs, rfl, hname, p, hp, hpn⟩ := firstId_eq_some hmatch
      exact .inl ⟨o, howner, hne, hname, s, hs, rfl, p, hp, hpn⟩
    case h_2 =>
      obtain ⟨id, hclass, rfl⟩ := Option.map_eq_some_iff.mp h
      rw [matchWindowClass_eq] at hclass
      obtain ⟨s, hs, rfl, hne, p, hp, hpn⟩ := firstId_eq_some hclass
      exact .inl ⟨hne, s, hs, rfl, p, hp, hpn⟩

theorem isTerminalClass_xterm : Window.isTerminalClass "XTerm" = true := by
  decide +kernel

theorem classify_terminal_child {g : Graph} (hw : g.Consistent) {className : String}
    (hclass : Window.isTerminalClass className = true) {o : Pid} (ho : o ≠ 0) (h₀ v : Proc.Handle)
    (n : String) (hindex : g.index[o]? = some h₀) (hname : (g.get? v).map (·.name) = some n)
    (hlink : g.up v = some h₀) {s : GroupSpec} {rest : List GroupSpec} {p : String}
    (hp : p ∈ s.terminalProcesses) (hpn : Names p n) :
    classify ⟨(s :: rest).map GroupSpec.toGroup⟩ g className (some o) = some ⟨s.id, .terminalDescendant⟩ := by
  have hbelow : n ∈ (g.descendants o).map (·.2) := by
    obtain ⟨m, hm, rfl⟩ := Option.map_eq_some_iff.mp hname
    exact (mem_descendant_names hw o _).mpr ⟨h₀, v, m, hindex, hm, .single hlink, rfl⟩
  have hfirst : firstId (s :: rest) (fun s ↦ ∃ p ∈ s.terminalProcesses, ∃ n ∈ (g.descendants o).map (·.2),
      Names p n) = some s.id := by
    classical
    simp only [firstId, List.find?_cons]
    split
    case h_1 => rfl
    case h_2 hmiss => exact absurd ⟨p, hp, n, hbelow, hpn⟩ (decide_eq_false_iff_not.mp hmiss)
  have hknown : (some o).filter (· != 0) = some o := Option.filter_eq_some_iff.mpr ⟨rfl, by simpa using ho⟩
  simp only [classify, terminalTier, hknown, hclass, if_true, Option.bind_some, matchTerminal_eq, hfirst]

theorem classify_matched_by_name_vim :
    let specs : List GroupSpec := [{ id := 1, terminalProcesses := ["vim"] }]
    let g := Graph.run [.upsert ⟨100, 0, "xterm"⟩, .upsert ⟨101, 100, "vim"⟩]
    classify ⟨specs.map GroupSpec.toGroup⟩ g "XTerm" (some 100) = some ⟨1, .terminalDescendant⟩ ∧
      (MatchedByName specs g "XTerm" (some 100) ⟨1, .terminalDescendant⟩ ∨
        EmptyTerminalMatch specs g (some 100) ⟨1, .terminalDescendant⟩) := by
  intro specs g
  have h : classify ⟨specs.map GroupSpec.toGroup⟩ g "XTerm" (some 100) = some ⟨1, .terminalDescendant⟩ :=
    classify_terminal_child (Graph.reachable_run _).consistent isTerminalClass_xterm (by decide) ⟨1, 0⟩ ⟨2, 0⟩
      "vim" (by decide) (by decide) (by decide) (List.mem_singleton_self _) rfl
  exact ⟨h, classify_matched_by_name specs g "XTerm" (some 100) h⟩

/-- A process without a name below an `xterm`, over a group whose one terminal pattern is empty:
the terminal tier places the window, although no process with a name was matched. -/
theorem empty_name_decides_terminal_tier :
    let specs : List GroupSpec := [{ id := 1, terminalProcesses := [""] }]
    let g := Graph.run [.upsert ⟨100, 0, "xterm"⟩, .upsert ⟨101, 100, ""⟩]
    classify ⟨specs.map GroupSpec.toGroup⟩ g "XTerm" (some 100) = some ⟨1, .terminalDescendant⟩ ∧
      ¬ MatchedByName specs g "XTerm" (some 100) ⟨1, .terminalDescendant⟩ := by
  intro specs g
  refine ⟨classify_terminal_child (Graph.reachable_run _).consistent isTerminalClass_xterm (by decide)
    ⟨1, 0⟩ ⟨2, 0⟩ "" (by decide) (by decide) (by decide) (List.mem_singleton_self _) rfl, ?_⟩
  rintro ⟨o, -, -, n, -, hn, s, hs, -, p, hp, hpn⟩
  obtain rfl : s = { id := 1, terminalProcesses := [""] } := List.mem_singleton.mp hs
  obtain rfl : p = "" := List.mem_singleton.mp hp
  exact hn ((names_empty_iff n).mp hpn.symm)

end KeystrokeTally.Classify
