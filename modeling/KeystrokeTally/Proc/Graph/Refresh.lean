import KeystrokeTally.Proc.Graph.Upsert

namespace KeystrokeTally.Proc

/-- What a refresh pass did. -/
structure RefreshReport where
  upserted : Nat
  stale : List Pid
  notes : List Graph.Note := []

namespace Graph

def batchIndex (entries : List Entry) : Std.TreeMap Pid Entry compare :=
  entries.foldl (fun m e => m.insert e.pid e) ∅

/-- Marks the node of `h` and its ancestors as seen in pass `epoch`, stopping at the first one
already in `marked` or at a stale handle; returns the grown marked set. -/
def markUp (epoch : Nat) : Nat → Graph × Std.HashSet Handle → Option Handle →
    Graph × Std.HashSet Handle
  | 0, acc, _ => acc
  | _, acc, none => acc
  | fuel + 1, (g, marked), some h =>
    if marked.contains h then (g, marked)
    else
      let marked := marked.insert h
      match g.get? h with
      | some n => markUp epoch fuel (g.update h fun n => { n with seen := epoch }, marked) n.parent
      | none => (g, marked)

/-- Marks every proper ancestor of a node seen in the current pass as seen. Every step of a walk
marks a new node, so one more step than there are nodes suffices. -/
def stampAncestors (g : Graph) : Graph :=
  let seen := g.index.toList.filterMap fun (_, h) =>
    if (g.get? h).any (·.seen == g.epoch) then some h else none
  let fuel := g.size + 1
  (seen.foldl (fun acc h => markUp g.epoch fuel acc (acc.1.up h)) (g, ∅)).1

def unseen (g : Graph) : List Pid :=
  g.index.toList.filterMap fun (p, h) =>
    if p != rootPid && (g.get? h).any (·.seen < g.epoch) then some p else none

def refresh (g : Graph) (entries : List Entry) : Graph × RefreshReport :=
  let index := batchIndex entries
  let lookup := fun p => index[p]?
  let g := { g with epoch := g.epoch + 1 }
  let (g, notes) := entries.foldl (fun acc e => (upsertWith lookup chaseLimit acc e .observed).1) (g, #[])
  let g := g.stampAncestors
  (g, ⟨entries.length, g.unseen, notes.toList⟩)

end Graph

end KeystrokeTally.Proc
