import Std.Data.TreeMap
import Std.Data.HashSet
import KeystrokeTally.Proc.Table

namespace KeystrokeTally.Proc

/-- How a node came to be in the graph. -/
inductive Origin where
  | observed
  | placeholder
  deriving DecidableEq, Repr

/-- A slot of the arena together with the generation the slot had when the node was put there. -/
structure Handle where
  index : Nat
  generation : UInt32
  deriving DecidableEq, Hashable, Repr

/-- One tracked process. -/
structure Node where
  pid : Pid
  name : String
  origin : Origin
  parent : Option Handle
  children : List Handle
  seen : Nat

/-- One place of the arena: its generation and the node it holds, if any. -/
structure Slot where
  generation : UInt32
  node : Option Node

/-- The tracked processes. -/
structure Graph where
  slots : Array Slot
  free : List Nat
  index : Std.TreeMap Pid Handle compare
  epoch : Nat

namespace Graph

def rootNode : Node := ⟨rootPid, rootName, .observed, none, [], 0⟩

def empty : Graph :=
  ⟨#[⟨0, some rootNode⟩], [], (∅ : Std.TreeMap Pid Handle compare).insert rootPid ⟨0, 0⟩, 0⟩

instance : Inhabited Graph := ⟨empty⟩

/-- The node a handle designates: none for a slot out of range, a slot of another generation,
or an empty slot. -/
def get? (g : Graph) (h : Handle) : Option Node :=
  g.slots[h.index]?.bind fun s => if s.generation = h.generation then s.node else none

def update (g : Graph) (h : Handle) (f : Node → Node) : Graph :=
  { g with slots := g.slots.modify h.index fun s =>
      if s.generation = h.generation then { s with node := s.node.map f } else s }

def alloc (g : Graph) (n : Node) : Graph × Handle :=
  match g.free with
  | i :: rest =>
    ({ g with slots := g.slots.modify i fun s => { s with node := some n }, free := rest },
      ⟨i, (g.slots[i]?.map (·.generation)).getD 0⟩)
  | [] => ({ g with slots := g.slots.push ⟨0, some n⟩ }, ⟨g.slots.size, 0⟩)

/-- Empties the slot a handle designates, advances its generation and stacks it as free;
a stale handle changes nothing. -/
def release (g : Graph) (h : Handle) : Graph :=
  match g.slots[h.index]? with
  | some s =>
    if s.generation = h.generation then
      { g with slots := g.slots.modify h.index fun s => ⟨s.generation + 1, none⟩,
               free := h.index :: g.free }
    else g
  | none => g

def root (g : Graph) : Handle := (g.index[rootPid]?).getD ⟨0, 0⟩

def up (g : Graph) (h : Handle) : Option Handle := (g.get? h).bind (·.parent)

def pidOf (g : Graph) (h : Handle) : Option Pid := (g.get? h).map (·.pid)

def find? (g : Graph) (p : Pid) : Option Node := g.index[p]?.bind g.get?

def contains (g : Graph) (p : Pid) : Bool := g.index.contains p

def size (g : Graph) : Nat := g.index.size

def isEmpty (g : Graph) : Bool := g.size ≤ 1

def pids (g : Graph) : List Pid := g.index.keys

def nameOf (g : Graph) (p : Pid) : String :=
  match g.find? p with
  | some n => n.name
  | none => ""

def parentOf (g : Graph) (p : Pid) : Option Pid :=
  (g.find? p).bind fun n => n.parent.bind g.pidOf

def childrenOf (g : Graph) (p : Pid) : List Pid :=
  (((g.find? p).map fun n => n.children.filterMap g.pidOf).getD []).mergeSort

def roots (g : Graph) : List Pid :=
  g.index.toList.filterMap fun (p, h) => if (g.get? h).any (·.parent.isNone) then some p else none

def handleOf (g : Graph) (p : Pid) : Option Handle := g.index[p]?

def resolve (g : Graph) (h : Handle) : Option Pid := g.pidOf h

def linksUp (g : Graph) (a : Handle) : Nat → Handle → Bool
  | fuel, h => h == a || match fuel, g.up h with
    | k + 1, some p => g.linksUp a k p
    | _, _ => false

/-- `a` lies on the parent chain of `n`, or is `n`. The walk gives up after as many links as
there are slots. -/
def isAncestor (g : Graph) (a n : Handle) : Bool := g.linksUp a g.slots.size n

/-- Takes the nodes on top of `stack` one by one and pushes each child not visited yet,
recording its pid and name; `fuel` bounds the number of nodes taken. -/
def walkDown (g : Graph) :
    Nat → List Handle → Std.HashSet Handle → List (Pid × String) → List (Pid × String)
  | 0, _, _, found => found
  | _ + 1, [], _, found => found
  | fuel + 1, h :: stack, visited, found =>
    match g.get? h with
    | none => g.walkDown fuel stack visited found
    | some n =>
      let (stack, visited, found) := n.children.foldl
        (fun (stack, visited, found) c =>
          if visited.contains c then (stack, visited, found)
          else match g.get? c with
            | some m => (c :: stack, visited.insert c, (m.pid, m.name) :: found)
            | none => (stack, visited.insert c, found))
        (stack, visited, found)
      g.walkDown fuel stack visited found

def pairLe (a b : Pid × String) : Bool := a.1 < b.1 || (a.1 == b.1 && decide (a.2 ≤ b.2))

/-- The processes strictly below `p`, with their names, ascending by pid; empty when `p` is
unknown. Every slot holds at most one node, so the walk takes at most one node more than there
are slots. -/
def descendants (g : Graph) (p : Pid) : List (Pid × String) :=
  match g.index[p]? with
  | some h => (g.walkDown (g.slots.size + 1) [h] ((∅ : Std.HashSet Handle).insert h) []).eraseDups.mergeSort pairLe
  | none => []

end Graph

end KeystrokeTally.Proc
