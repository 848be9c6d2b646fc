import KeystrokeTally.Classify.Tier
import KeystrokeTally.Config.Basic
import KeystrokeTally.Proofs.Graph.Walk
import Mathlib.Data.List.Find

namespace KeystrokeTally.Classify

open Proc (Pid Graph)
open Config (GroupSpec)
open Relation

def Names (pattern text : String) : Prop := Text.lower pattern = Text.lower text

def NamedBelow (g : Graph) (o : Pid) (n : String) : Prop :=
  ∃ h₀ v m, g.index[o]? = some h₀ ∧ g.get? v = some m ∧ TransGen g.Link v h₀ ∧ m.name = n

def TerminalClass (className : String) : Prop :=
  ∃ suffix ∈ Window.terminalSuffixes, suffix.toList <:+ (Text.lower className).toList

/-- Tier one places a window owned by `o` in a group: a terminal pattern of the group names a
process strictly below `o`. -/
def TerminalHit (g : Graph) (o : Pid) (spec : GroupSpec) : Prop :=
  ∃ p ∈ spec.terminalProcesses, ∃ n, NamedBelow g o n ∧ Names p n

def ProcessHit (g : Graph) (o : Pid) (spec : GroupSpec) : Prop :=
  g.nameOf o ≠ "" ∧ ∃ p ∈ spec.processes, Names p (g.nameOf o)

/-- Tier three: a window-class pattern of the group names the window's class, which is not
empty. -/
def ClassHit (className : String) (spec : GroupSpec) : Prop :=
  className ≠ "" ∧ ∃ p ∈ spec.windowClasses, Names p className

open Classical in
noncomputable def firstId (specs : List GroupSpec) (P : GroupSpec → Prop) : Option GroupId :=
  (specs.find? fun s => decide (P s)).map (·.id)

open Classical in
/-- The three tiers in order, the first that finds a group deciding. An owner of 0 is unknown,
and only a terminal window with a known owner reaches tier one. -/
noncomputable def tiered (specs : List GroupSpec) (g : Graph) (className : String) (owner : Option Pid) :
    Option Match :=
  let known := owner.filter (· != 0)
  let terminal := if TerminalClass className then known.bind fun o => firstId specs (TerminalHit g o) else none
  terminal.map (⟨·, .terminalDescendant⟩) <|>
    (known.bind fun o => firstId specs (ProcessHit g o)).map (⟨·, .process⟩) <|>
    (firstId specs (ClassHit className)).map (⟨·, .windowClass⟩)

variable {specs : List GroupSpec} {P Q : GroupSpec → Prop} {g : Graph}

@[simp]
theorem tiered_nil (className : String) (owner : Option Pid) : tiered [] g className owner = none := by
  simp [tiered, firstId]

theorem firstId_congr (h : ∀ s ∈ specs, P s ↔ Q s) : firstId specs P = firstId specs Q := by
  unfold firstId
  rw [List.find?_congr fun s hs ↦ decide_eq_decide.mpr (h s hs)]

theorem firstId_eq_none (h : ∀ s ∈ specs, ¬ P s) : firstId specs P = none := by
  unfold firstId
  rw [Option.map_eq_none_iff, List.find?_eq_none]
  simpa using h

theorem find?_toGroup {b : Group → Bool} (h : ∀ s ∈ specs, b s.toGroup = true ↔ P s) :
    ((specs.map GroupSpec.toGroup).find? b).map (·.id) = firstId specs P := by
  classical
  rw [List.find?_map, Option.map_map, firstId]
  exact congrArg (Option.map _) (List.find?_congr fun s hs ↦ by
    rw [Function.comp_apply, Bool.eq_iff_iff, decide_eq_true_iff]
    exact h s hs)

section Patterns

variable (specs)

theorem matchTerminal_eq (names : List String) :
    (⟨specs.map GroupSpec.toGroup⟩ : Rules).matchTerminal names =
      firstId specs fun s ↦ ∃ p ∈ s.terminalProcesses, ∃ n ∈ names, Names p n := by
  unfold Rules.matchTerminal
  dsimp only
  split
  case isTrue hnil =>
    have : names = [] := by simpa using hnil
    subst this
    exact (firstId_eq_none fun _ _ ⟨_, _, _, hn, _⟩ ↦ List.not_mem_nil hn).symm
  case isFalse =>
    apply find?_toGroup
    intro s _
    simp only [GroupSpec.toGroup, Group.make, List.any_eq_true, List.contains_iff_mem, List.mem_map, Names]
    constructor
    · rintro ⟨_, ⟨p, hp, rfl⟩, n, hn, he⟩
      exact ⟨p, hp, n, hn, he.symm⟩
    · rintro ⟨p, hp, n, hn, he⟩
      exact ⟨_, ⟨p, hp, rfl⟩, n, hn, he.symm⟩

theorem matchProcess_eq (name : String) :
    (⟨specs.map GroupSpec.toGroup⟩ : Rules).matchProcess name =
      firstId specs fun s ↦ name ≠ "" ∧ ∃ p ∈ s.processes, Names p name := by
  unfold Rules.matchProcess
  split
  case isTrue hempty =>
    exact (firstId_eq_none fun _ _ ⟨hne, _⟩ ↦ hne (String.isEmpty_iff.mp hempty)).symm
  case isFalse hempty =>
    apply find?_toGroup
    intro s _
    have hne : name ≠ "" := fun he ↦ hempty (String.isEmpty_iff.mpr he)
    simp [GroupSpec.toGroup, Group.make, Names, hne]

theorem matchWindowClass_eq (className : String) :
    (⟨specs.map GroupSpec.toGroup⟩ : Rules).matchWindowClass className =
      firstId specs (ClassHit className) := by
  unfold Rules.matchWindowClass
  split
  case isTrue hempty =>
    exact (firstId_eq_none fun _ _ ⟨hne, _⟩ ↦ hne (String.isEmpty_iff.mp hempty)).symm
  case isFalse hempty =>
    apply find?_toGroup
    intro s _
    have hne : className ≠ "" := fun he ↦ hempty (String.isEmpty_iff.mpr he)
    simp [GroupSpec.toGroup, Group.make, ClassHit, Names, hne]

end Patterns

theorem isTerminalClass_iff (className : String) :
    Window.isTerminalClass className = true ↔ TerminalClass className := by
  simp [Window.isTerminalClass, TerminalClass, List.any_eq_true, List.isSuffixOf_iff_suffix]

theorem mem_descendant_names (hw : g.Consistent) (o : Pid) (n : String) :
    n ∈ (g.descendants o).map (·.2) ↔ NamedBelow g o n := by
  simp only [List.mem_map, hw.mem_descendants_iff, NamedBelow]
  constructor
  · rintro ⟨a, ⟨h₀, v, m, hi, hm, hbelow, rfl⟩, rfl⟩
    exact ⟨h₀, v, m, hi, hm, hbelow, rfl⟩
  · rintro ⟨h₀, v, m, hi, hm, hbelow, rfl⟩
    exact ⟨_, ⟨h₀, v, m, hi, hm, hbelow, rfl⟩, rfl⟩

open Classical in
theorem terminalTier_eq (hw : g.Consistent) (className : String) (known : Option Pid) :
    terminalTier ⟨specs.map GroupSpec.toGroup⟩ g className known =
      if TerminalClass className then known.bind fun o ↦ firstId specs (TerminalHit g o) else none := by
  unfold terminalTier
  by_cases hc : TerminalClass className
  · rw [if_pos ((isTerminalClass_iff className).mpr hc), if_pos hc]
    congr 1
    funext o
    rw [matchTerminal_eq]
    exact firstId_congr fun s _ ↦ by simp only [mem_descendant_names hw, TerminalHit]
  · rw [if_neg (mt (isTerminalClass_iff className).mp hc), if_neg hc]

theorem classify_toGroup_eq (hw : g.Consistent) (className : String) (owner : Option Pid) :
    classify ⟨specs.map GroupSpec.toGroup⟩ g className owner = tiered specs g className owner := by
  have hproc : ∀ o, (⟨specs.map GroupSpec.toGroup⟩ : Rules).matchProcess (g.nameOf o) =
      firstId specs (ProcessHit g o) := fun o ↦ matchProcess_eq specs _
  unfold classify tiered
  simp only [terminalTier_eq hw, hproc, matchWindowClass_eq]
  split
  case h_1 id ht => rw [ht]; rfl
  case h_2 ht =>
    rw [ht]
    split
    case h_1 id hp => rw [hp]; rfl
    case h_2 hp => rw [hp]; rfl

theorem classify_eq_tiered (specs : List GroupSpec) (g : Graph) (hw : g.Consistent)
    (className : String) (owner : Option Pid) :
    classify ⟨specs.map GroupSpec.toGroup⟩ g className owner = tiered specs g className owner :=
  classify_toGroup_eq hw className owner

theorem classify_eq_tiered_terminal :
    let specs : List GroupSpec := [{ id := 1, terminalProcesses := ["VIM"] }, { id := 2, processes := ["xterm"] }]
    let g := Graph.run [.upsert ⟨100, 1, "xterm"⟩, .upsert ⟨101, 100, "vim"⟩]
    g.Consistent ∧ classify ⟨specs.map GroupSpec.toGroup⟩ g "XTerm" (some 100) = tiered specs g "XTerm" (some 100) :=
  have hw := (Graph.reachable_run _).consistent
  ⟨hw, classify_eq_tiered _ _ hw _ _⟩

end KeystrokeTally.Classify
