import Std.Data.TreeMap
import KeystrokeTally.Tally.Store

namespace KeystrokeTally.Tally

open Classify (GroupId)

/-- Counters in memory, the groups whose writes are refused, and the number of writes made. -/
structure MemoryStore where
  clusterSize : Int
  counts : Std.TreeMap Key Int compare := ∅
  failing : List GroupId := []
  writes : Nat := 0

namespace MemoryStore

def make (clusterSize : Int) : Except StoreError MemoryStore := do
  pure { clusterSize := ← checkClusterSize clusterSize }

def failGroup (m : MemoryStore) (group : GroupId) : MemoryStore :=
  if m.failing.contains group then m else { m with failing := m.failing ++ [group] }

def heal (m : MemoryStore) : MemoryStore := { m with failing := [] }

def countFor (m : MemoryStore) (bucket : Int) (group : GroupId) : Int :=
  m.counts.getD ⟨bucket, group⟩ 0

def counters (m : MemoryStore) : List (Key × Int) := m.counts.toList

def total (m : MemoryStore) : Except Fault Int :=
  Word.sum (m.counts.toList.map (·.2))

def upsert (m : MemoryStore) (bucket : Int) (group : GroupId) (delta : Int) :
    Except Fault (Except StoreError MemoryStore) :=
  if m.failing.contains group then
    pure (.error (.rejected ("writes for group " ++ toString group ++ " are disabled")))
  else do
    let n ← Word.add (m.countFor bucket group) delta
    pure (.ok { m with counts := m.counts.insert ⟨bucket, group⟩ n, writes := m.writes + 1 })

end MemoryStore

instance : CounterStore MemoryStore where
  clusterSize := MemoryStore.clusterSize
  upsert := MemoryStore.upsert

end KeystrokeTally.Tally
