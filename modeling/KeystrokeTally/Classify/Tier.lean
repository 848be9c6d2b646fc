import KeystrokeTally.Classify.Group
import KeystrokeTally.Proc.Graph.Basic
import KeystrokeTally.Window.Metadata

namespace KeystrokeTally.Classify

open Proc (Pid Graph)

/-- The tier that placed a window. -/
inductive Tier where
  | terminalDescendant
  | process
  | windowClass
  deriving DecidableEq, Repr, Inhabited

def Tier.text : Tier → String
  | .terminalDescendant => "terminal-descendant"
  | .process => "process"
  | .windowClass => "window-class"

def Tier.key : Tier → String
  | .terminalDescendant => "terminal_descendant"
  | .process => "process"
  | .windowClass => "window_class"

/-- A group found for a window, and the tier that found it. -/
structure Match where
  group : GroupId
  tier : Tier
  deriving DecidableEq, Repr, Inhabited

def terminalTier (rules : Rules) (g : Graph) (className : String) (owner : Option Pid) :
    Option GroupId :=
  if Window.isTerminalClass className then
    owner.bind fun p => rules.matchTerminal ((g.descendants p).map (·.2))
  else none

def classify (rules : Rules) (g : Graph) (className : String) (owner : Option Pid) : Option Match :=
  let owner := owner.filter (· != 0)
  match terminalTier rules g className owner with
  | some id => some ⟨id, .terminalDescendant⟩
  | none =>
    match owner.bind fun p => rules.matchProcess (g.nameOf p) with
    | some id => some ⟨id, .process⟩
    | none => (rules.matchWindowClass className).map (⟨·, .windowClass⟩)

def explain (w : Window.Handle) (g : Graph) (className : String) (owner : Option Pid) :
    Option Match → String
  | some ⟨id, .terminalDescendant⟩ =>
    "Window " ++ Window.display w ++ " matched group Some(" ++ toString id ++ ") via terminal tier"
  | some ⟨id, .process⟩ =>
    let p := ((owner.filter (· != 0)).getD 0)
    "Window " ++ Window.display w ++ " matched group " ++ toString id ++ " via owner " ++ toString p ++
      " (" ++ g.nameOf p ++ ")"
  | some ⟨id, .windowClass⟩ =>
    "Window " ++ Window.display w ++ " matched group " ++ toString id ++ " via class '" ++ className ++ "'"
  | none => "Window " ++ Window.display w ++ " (class '" ++ className ++ "') is unmatched"

end KeystrokeTally.Classify
