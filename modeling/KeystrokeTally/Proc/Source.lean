import KeystrokeTally.Proc.Table
import KeystrokeTally.Proc.StatLine
import KeystrokeTally.Disk.Tree
import KeystrokeTally.Text.Escaped
import KeystrokeTally.Proc.Graph.Refresh
import KeystrokeTally.Proc.Graph.Remove
import KeystrokeTally.Stats.Counters

namespace KeystrokeTally.Proc

/-- A process source. -/
inductive Source where
  | table (t : Table)
  | procfs (root : String)
  | layered (host : Source) (declared : Table)

/-- Why a source could not be enumerated. -/
structure SourceError where
  root : String
  cause : Disk.IoError

def SourceError.message (e : SourceError) : String :=
  "Cannot enumerate processes under " ++ e.root ++ ": " ++ e.cause.message

def SourceError.dump (e : SourceError) : String :=
  "Unreadable \x7b path: " ++ Text.quoteForDiagnostic e.root ++ ", source: " ++ e.cause.dump ++ " \x7d"

def pidOfName (name : String) : Option Pid :=
  if name.isEmpty || !name.toList.all Char.isDigit then none else readPid name

def Entry.listedBefore (a b : Entry) : Bool :=
  a.pid < b.pid || (a.pid == b.pid && (a.ppid < b.ppid || (a.ppid == b.ppid && decide (a.name ≤ b.name))))

def readProcfs (d : Disk.Tree) (root : String) : Except SourceError (List Entry × Nat) := do
  let names ← match d.list root with
    | .ok ns => pure ns
    | .error e => throw ⟨root, e⟩
  let step : List Entry × Nat → String → List Entry × Nat := fun (found, skipped) name =>
    match pidOfName name with
    | none => (found, skipped)
    | some p =>
      match d.readText (root ++ "/" ++ name ++ "/stat") with
      | .ok text =>
        match parseStat text with
        | some e => if e.pid == p then (e :: found, skipped) else (found, skipped + 1)
        | none => (found, skipped + 1)
      | .error _ => (found, skipped + 1)
  let (found, skipped) := names.foldl step ([], 0)
  pure (found.mergeSort Entry.listedBefore, skipped)

/-- The entries of a procfs directory whose stat line reports another pid than the entry's
name, as `(entry pid, reported pid)` in directory order. -/
def mismatchedStats (d : Disk.Tree) (root : String) : List (Pid × Pid) :=
  ((d.list root).toOption.getD []).filterMap fun name =>
    (pidOfName name).bind fun p =>
      match d.readText (root ++ "/" ++ name ++ "/stat") with
      | .ok text => (parseStat text).bind fun e => if e.pid == p then none else some (p, e.pid)
      | .error _ => none

namespace Source

def enumerate (d : Disk.Tree) : Source → Except SourceError (List Entry × Nat)
  | .table t => .ok (t.list, 0)
  | .procfs root => readProcfs d root
  | .layered host declared => do
    let (hs, skipped) ← enumerate d host
    let merged := declared.list.foldl Table.insert (Table.ofList hs)
    pure (merged.list, skipped)

def alive (d : Disk.Tree) : Source → Pid → Bool
  | .table t, p => t.has p
  | .procfs root, p => d.exists? (root ++ "/" ++ toString p)
  | .layered host declared, p => declared.has p || alive d host p

end Source

end KeystrokeTally.Proc

namespace KeystrokeTally.Proc

/-- What a sync pass did. -/
structure SyncReport where
  enumerated : Nat
  removed : Nat
  tracked : Nat

/-- One sync pass over a source read from `disk`; also returns the number of procfs entries it
skipped. -/
def sync (disk : Disk.Tree) (src : Source) (g : Graph) (stats : Stats.Counters) :
    Except (SourceError × Stats.Counters) (Graph × Stats.Counters × SyncReport × Nat) :=
  match src.enumerate disk with
  | .error e => .error (e, stats.recordSyncFailure)
  | .ok (entries, skipped) =>
    let (g, report) := g.refresh entries
    let before := g.size
    let alive := src.alive disk
    let g := report.stale.foldl
      (fun g p => if alive p then g else (g.remove p alive).1) g
    let tracked := g.size
    let removed := before - tracked
    .ok (g, stats.recordSync tracked removed, ⟨report.upserted, removed, tracked⟩, skipped)

end KeystrokeTally.Proc
