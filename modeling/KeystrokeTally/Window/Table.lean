import Std.Data.TreeMap
import KeystrokeTally.Window.Metadata

namespace KeystrokeTally.Window

open Proc (Pid)

/-- Metadata of the declared windows, by handle. -/
structure Table where
  windows : Std.TreeMap Handle Metadata compare := ∅

namespace Table

instance : Inhabited Table := ⟨{}⟩

def declare (t : Table) (w : Handle) (m : Metadata) : Table :=
  ⟨t.windows.insert w m⟩

def forget (t : Table) (w : Handle) : Option Metadata × Table :=
  (t.windows[w]?, ⟨t.windows.erase w⟩)

def query? (t : Table) (w : Handle) : Option Metadata := t.windows[w]?

def size (t : Table) : Nat := t.windows.size

def isEmpty (t : Table) : Bool := t.windows.isEmpty

def className (t : Table) (w : Handle) : String :=
  ((t.query? w).map (·.className)).getD ""

def owner (t : Table) (w : Handle) : Option Pid :=
  (t.query? w).bind (·.owner)

end Table

end KeystrokeTally.Window
