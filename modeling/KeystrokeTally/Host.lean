import KeystrokeTally.Disk.Tree
import KeystrokeTally.Log.Level
import KeystrokeTally.Proc.Graph.Refresh
import KeystrokeTally.Proc.Source
import KeystrokeTally.Tally.Database

namespace KeystrokeTally

/-- What the program has written, and how verbose its log is. -/
structure Console where
  out : String := ""
  err : String := ""
  level : Option Log.Level := none
  deriving Inhabited

/-- The host of a run. -/
structure Host where
  disk : Disk.Tree
  home : Option String
  stdin : String := ""
  console : Console := {}
  deriving Inhabited

/-- A computation on the host. -/
abbrev HostM := StateM Host

def Log.Level.label : Log.Level → String
  | .off => "OFF"
  | .error => "ERROR"
  | .warn => "WARN"
  | .info => "INFO"
  | .debug => "DEBUG"
  | .trace => "TRACE"

def Console.enabled (c : Console) (l : Log.Level) : Bool :=
  match c.level with
  | some max => l != .off && l.rank ≤ max.rank
  | none => false

namespace HostM

def withConsole (f : Console → Console) : HostM Unit :=
  modify fun h => { h with console := f h.console }

def print (s : String) : HostM Unit :=
  withConsole fun c => { c with out := c.out ++ s }

def println (s : String) : HostM Unit := print (s ++ "\n")

def eprintln (s : String) : HostM Unit :=
  withConsole fun c => { c with err := c.err ++ s ++ "\n" }

def log (l : Log.Level) (target msg : String) : HostM Unit :=
  withConsole fun c =>
    if c.enabled l then { c with out := c.out ++ l.label ++ " " ++ target ++ ": " ++ msg ++ "\n" } else c

def setLevel (l : Log.Level) : HostM Unit :=
  withConsole fun c => { c with level := some l }

def disk : HostM Disk.Tree := do
  return (← get).disk

def setDisk (d : Disk.Tree) : HostM Unit :=
  modify fun h => { h with disk := d }

def home : HostM (Option String) := do
  return (← get).home

end HostM

end KeystrokeTally

namespace KeystrokeTally.HostM

def graphTarget : String := "keytally::process::graph"

def noteGraph : Proc.Graph.Note → HostM Unit
  | .placeholder p => log .trace graphTarget ("Creating placeholder for unknown ancestor pid " ++ toString p)
  | .chaseLimit p =>
    log .debug graphTarget ("Ancestor chain of pid " ++ toString p ++ " exceeds " ++ toString Proc.chaseLimit ++
      " levels, attaching to root")
  | .cycle q p =>
    log .debug graphTarget ("Parent " ++ toString q ++ " of pid " ++ toString p ++ " is its descendant, attaching to root")

def refreshGraph (g : Proc.Graph) (entries : List Proc.Entry) : HostM (Proc.Graph × Proc.RefreshReport) := do
  let (g, r) := g.refresh entries
  for n in r.notes do noteGraph n
  return (g, r)

def descendantsOf (g : Proc.Graph) (p : Proc.Pid) : HostM (List (Proc.Pid × String)) := do
  unless g.contains p do
    log .trace graphTarget ("No such pid " ++ toString p ++ " in process graph")
  return g.descendants p

end KeystrokeTally.HostM

namespace KeystrokeTally.HostM

def enumerateProcfs (root : String) : HostM (Except Proc.SourceError (List Proc.Entry × Nat)) := do
  match Proc.readProcfs (← disk) root with
  | .error e => return .error e
  | .ok (es, skipped) =>
    for (p, q) in Proc.mismatchedStats (← disk) root do
      log .trace "keytally::process::source" ("stat of " ++ toString p ++ " reports pid " ++ toString q ++ ", skipping")
    log .debug "keytally::process::source" ("Enumerated " ++ toString es.length ++ " processes under " ++ root)
    return .ok (es, skipped)

end KeystrokeTally.HostM

namespace KeystrokeTally.HostM

def databaseTarget : String := "keytally::storage::sqlite"

def openDatabase (path : String) (clusterSize : Int) : HostM (Except Tally.StoreError (Tally.Database Tally.CounterFile)) := do
  match Tally.Database.openAt (← disk) path clusterSize with
  | .error e => return .error e
  | .ok (db, d) =>
    setDisk d
    log .debug databaseTarget "Keystroke schema ready"
    log .info databaseTarget ("Opened keystroke database at " ++ path)
    return .ok db

end KeystrokeTally.HostM
