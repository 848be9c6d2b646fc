import KeystrokeTally.Text.Lower

namespace KeystrokeTally.Classify

/-- An application group's id, chosen by the configuration. -/
abbrev GroupId := Int

/-- An application group and its patterns. -/
structure Group where
  id : GroupId
  name : Option String := none
  windowClasses : List String := []
  terminalProcesses : List String := []
  processes : List String := []
  deriving DecidableEq, Repr, Inhabited

namespace Group

def make (id : GroupId) (name : Option String) (windowClasses terminalProcesses processes : List String) :
    Group :=
  ⟨id, name, windowClasses.map Text.lower, terminalProcesses.map Text.lower, processes.map Text.lower⟩

def patternCount (g : Group) : Nat :=
  g.windowClasses.length + g.terminalProcesses.length + g.processes.length

def label (g : Group) : String :=
  match g.name with
  | some n => n
  | none => "group " ++ toString g.id

def isEmpty (g : Group) : Bool :=
  g.windowClasses.isEmpty && g.terminalProcesses.isEmpty && g.processes.isEmpty

end Group

/-- Groups in the order that decides ties. -/
structure Rules where
  groups : List Group := []
  deriving Inhabited

namespace Rules

def get? (r : Rules) (id : GroupId) : Option Group :=
  r.groups.find? (·.id == id)

def size (r : Rules) : Nat := r.groups.length

def isEmpty (r : Rules) : Bool := r.groups.isEmpty

def matchTerminal (r : Rules) (names : List String) : Option GroupId :=
  let lowered := names.map Text.lower
  if lowered.isEmpty then none
  else (r.groups.find? fun g => g.terminalProcesses.any lowered.contains).map (·.id)

def matchProcess (r : Rules) (name : String) : Option GroupId :=
  if name.isEmpty then none
  else
    let lowered := Text.lower name
    (r.groups.find? (·.processes.contains lowered)).map (·.id)

def matchWindowClass (r : Rules) (className : String) : Option GroupId :=
  if className.isEmpty then none
  else
    let lowered := Text.lower className
    (r.groups.find? (·.windowClasses.contains lowered)).map (·.id)

end Rules

end KeystrokeTally.Classify
