import KeystrokeTally.Proc.Graph.Upsert

namespace KeystrokeTally.Proc

namespace Graph

/-- Removes `p` and, below it, every child that `alive` reports gone, recursively; live children
are unlinked. `fuel` bounds the depth of the recursion. -/
def removeTree (alive : Pid → Bool) : Nat → Graph → Pid → Graph
  | 0, g, _ => g
  | fuel + 1, g, p =>
    if p == rootPid then g
    else match g.index[p]? with
      | none => g
      | some h =>
        let g := g.unlink h
        let children := ((g.get? h).map (·.children)).getD []
        let g := g.update h fun n => { n with children := [] }
        let g := children.foldl
          (fun g c =>
            match g.get? c with
            | none => g
            | some n =>
              let g := g.update c fun n => { n with parent := none }
              if alive n.pid then g else removeTree alive fuel g n.pid)
          g
        { g with index := g.index.erase p }.release h

/-- Removes a process as described above; false for the root and for unknown pids. A removal
never reaches deeper than there are nodes. -/
def remove (g : Graph) (p : Pid) (alive : Pid → Bool) : Graph × Bool :=
  if p == rootPid || !g.contains p then (g, false)
  else (g.removeTree alive g.size p, true)

end Graph

end KeystrokeTally.Proc
