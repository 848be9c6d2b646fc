import KeystrokeTally.Proc.Graph.Basic

namespace KeystrokeTally.Proc

def chaseLimit : Nat := 1024

/-- The parent an entry declares; a process that names itself as its parent hangs below the
root. -/
def Entry.parent (e : Entry) : Pid := if e.ppid == e.pid then rootPid else e.ppid

namespace Graph

/-- Detaches a node from its parent: the parent link is cleared and the parent forgets the
child. -/
def unlink (g : Graph) (c : Handle) : Graph :=
  match g.get? c with
  | none => g
  | some n =>
    let g := g.update c fun n => { n with parent := none }
    match n.parent with
    | some p => g.update p fun m => { m with children := m.children.filter (· != c) }
    | none => g

def link (g : Graph) (p c : Handle) : Graph :=
  let g := g.update p fun m => if m.children.contains c then m else { m with children := m.children ++ [c] }
  g.update c fun n => { n with parent := some p }

/-- Gives `p` a node named `name` from `origin`, seen in the current pass: an existing node
keeps its links and handle, a new one takes a slot and has no links yet. -/
def touch (g : Graph) (p : Pid) (name : String) (origin : Origin) : Graph × Handle :=
  match g.index[p]? with
  | some h => (g.update h fun n => { n with name := name, origin := origin, seen := g.epoch }, h)
  | none =>
    let (g', h) := g.alloc ⟨p, name, origin, none, [], g.epoch⟩
    ({ g' with index := g'.index.insert p h }, h)

/-- Links `h` below `parent` unless `h` lies on `parent`'s chain, in which case below the root;
a link that is already in place is left alone. -/
def attach (g : Graph) (h parent : Handle) : Graph :=
  let target := if g.isAncestor h parent then g.root else parent
  if g.up h = some target then g else (g.unlink h).link target h

/-- Something an insertion had to decide on its own, worth a log record. -/
inductive Note where
  | placeholder (pid : Pid)
  | chaseLimit (pid : Pid)
  | cycle (parent pid : Pid)
  deriving DecidableEq, Repr

/-- Links `h` (of pid `p`) below `parent` (of pid `q`) as `attach` does, noting when the parent
had to give way to the root. -/
def attachNoting (g : Graph) (notes : Array Note) (h parent : Handle) (q p : Pid) :
    Graph × Array Note :=
  (g.attach h parent, if g.isAncestor h parent then notes.push (.cycle q p) else notes)

/-- Inserts or refreshes `e`, resolving missing ancestors through `lookup`; `fuel` is the number
of chasing levels left. An untracked parent is inserted from `lookup`, or as a placeholder below
the root when `lookup` does not know it. Returns the node's handle, and appends to `notes` what
it decided on its own. -/
def upsertWith (lookup : Pid → Option Entry) :
    Nat → Graph × Array Note → Entry → Origin → (Graph × Array Note) × Handle
  | fuel, (g, notes), e, origin =>
    if e.pid == rootPid then
      ((g.update g.root (fun n => { n with seen := g.epoch }), notes), g.root)
    else
      let parentPid := e.parent
      let (g, h) := g.touch e.pid e.name origin
      match fuel with
      | 0 => (g.attachNoting (notes.push (.chaseLimit e.pid)) h g.root parentPid e.pid, h)
      | k + 1 =>
        let ((g, notes), parent) :=
          match g.index[parentPid]? with
          | some ph => ((g, notes), ph)
          | none =>
            match lookup parentPid with
            | some pe => upsertWith lookup k (g, notes) pe .observed
            | none =>
              upsertWith lookup k (g, notes.push (.placeholder parentPid)) ⟨parentPid, rootPid, ""⟩
                .placeholder
        (g.attachNoting notes h parent parentPid e.pid, h)

def upsert (g : Graph) (e : Entry) : Graph × Handle :=
  let ((g, _), h) := upsertWith (fun _ => none) chaseLimit (g, #[]) e .observed
  (g, h)

end Graph

end KeystrokeTally.Proc
