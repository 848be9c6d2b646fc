import KeystrokeTally.Window.Table

namespace KeystrokeTally.Window

open Proc (Pid)

/-- Memoised metadata and the hit and miss counts. -/
structure Cache where
  entries : Std.TreeMap Handle Metadata compare := ∅
  hits : Nat := 0
  misses : Nat := 0

namespace Cache

instance : Inhabited Cache := ⟨{}⟩

def lookup (c : Cache) (t : Table) (w : Handle) : Option Metadata × Cache :=
  match c.entries[w]? with
  | some m => (some m, { c with hits := c.hits + 1 })
  | none =>
    let c := { c with misses := c.misses + 1 }
    match t.query? w with
    | some m => (some m, { c with entries := c.entries.insert w m })
    | none => (none, c)

def className (c : Cache) (t : Table) (w : Handle) : String × Cache :=
  let (m, c) := c.lookup t w
  (((m.map (·.className)).getD ""), c)

def owner (c : Cache) (t : Table) (w : Handle) : Option Pid × Cache :=
  let (m, c) := c.lookup t w
  (m.bind (·.owner), c)

def invalidate (c : Cache) (w : Handle) : Cache :=
  { c with entries := c.entries.erase w }

def size (c : Cache) : Nat := c.entries.size

end Cache

end KeystrokeTally.Window
