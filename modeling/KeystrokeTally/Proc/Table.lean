import Std.Data.TreeMap

namespace KeystrokeTally.Proc

/-- An operating-system process id. -/
abbrev Pid := Nat

def rootPid : Pid := 0

def rootName : String := "[root]"

/-- One process as a table lists it. -/
structure Entry where
  pid : Pid
  ppid : Pid
  name : String
  deriving DecidableEq, Repr, Inhabited

end KeystrokeTally.Proc

namespace KeystrokeTally.Proc

/-- A process table. -/
structure Table where
  entries : Std.TreeMap Pid Entry compare := ∅

namespace Table

def insert (t : Table) (e : Entry) : Table := ⟨t.entries.insert e.pid e⟩

def kill (t : Table) (p : Pid) : Table × Option Entry :=
  (⟨t.entries.erase p⟩, t.entries[p]?)

def list (t : Table) : List Entry := t.entries.values

def has (t : Table) (p : Pid) : Bool := t.entries.contains p

def ofList (es : List Entry) : Table := es.foldl insert {}

end Table

end KeystrokeTally.Proc
