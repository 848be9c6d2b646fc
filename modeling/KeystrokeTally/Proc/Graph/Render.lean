import KeystrokeTally.Proc.Graph.Basic

namespace KeystrokeTally.Proc

namespace Graph

def line (n : Node) (depth : Nat) : String :=
  String.ofList (List.replicate (2 * depth) ' ') ++ toString n.pid ++ " " ++ n.name ++
    (if n.origin == .placeholder then " (placeholder)" else "") ++ "\n"

def renderFrom (g : Graph) : Nat → Handle → Nat → String
  | 0, _, _ => ""
  | fuel + 1, h, depth =>
    match g.get? h with
    | none => ""
    | some n =>
      let kids := (n.children.filterMap fun c => (g.pidOf c).map (·, c)).mergeSort fun a b => a.1 ≤ b.1
      kids.foldl (fun out (_, c) => out ++ g.renderFrom fuel c (depth + 1)) (line n depth)

def renderTree (g : Graph) (p : Pid) : String :=
  match g.index[p]? with
  | some h => g.renderFrom (g.slots.size + 1) h 0
  | none => ""

def renderForest (g : Graph) : String :=
  g.roots.foldl (fun out r => out ++ g.renderTree r) ""

def liveCount (g : Graph) : Nat := g.slots.countP (·.node.isSome)

def parentFault (g : Graph) (p : Pid) (h : Handle) (n : Node) : Option String :=
  match n.parent with
  | none => none
  | some q =>
    match g.get? q with
    | none => some ("pid " ++ toString p ++ " has a dead parent handle")
    | some m =>
      if !m.children.contains h then
        some ("parent of pid " ++ toString p ++ " does not list it as child")
      else if g.isAncestor h q then some ("pid " ++ toString p ++ " is its own ancestor")
      else none

def childFault (g : Graph) (p : Pid) (h c : Handle) : Option String :=
  match g.get? c with
  | none => some ("pid " ++ toString p ++ " has a dead child handle")
  | some m =>
    if m.parent != some h then
      some ("child " ++ toString m.pid ++ " of pid " ++ toString p ++ " points elsewhere")
    else none

def checkEntry (g : Graph) (p : Pid) (h : Handle) : Option String :=
  match g.get? h with
  | none => some ("pid " ++ toString p ++ " maps to a dead handle")
  | some n =>
    if n.pid != p then some ("pid " ++ toString p ++ " maps to node of pid " ++ toString n.pid)
    else g.parentFault p h n <|> n.children.findSome? (g.childFault p h)

def checkConsistency (g : Graph) : Option String :=
  if g.liveCount != g.size then
    some ("index holds " ++ toString g.size ++ " pids but arena holds " ++ toString g.liveCount ++
      " nodes")
  else g.index.toList.findSome? fun (p, h) => g.checkEntry p h

end Graph

end KeystrokeTally.Proc
