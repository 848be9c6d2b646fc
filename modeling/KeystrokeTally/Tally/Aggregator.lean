import Std.Data.TreeMap
import KeystrokeTally.Tally.Store
import KeystrokeTally.Stats.Counters

namespace KeystrokeTally.Tally

open Classify (GroupId)

/-- Pending key presses per bucket start and group. -/
structure Aggregator where
  pending : Std.TreeMap Key Int compare := ∅

/-- What one commit did. -/
structure CommitReport where
  buckets : Nat := 0
  written : Nat := 0
  failed : Nat := 0
  keypressesWritten : Int := 0
  keypressesDropped : Int := 0

namespace Aggregator

/-- Records `count` key presses of `group` at `ts`. Nothing happens, and the answer is false,
without a group or for a count that is not positive. -/
def recordCount [CounterStore σ] (s : σ) (a : Aggregator) (stats : Stats.Counters)
    (group : Option GroupId) (ts count : Int) : Except Fault (Bool × Aggregator × Stats.Counters) :=
  match group with
  | none => pure (false, a, stats)
  | some g =>
    if count ≤ 0 then pure (false, a, stats)
    else do
      let bucket ← CounterStore.bucketOf s ts
      let n ← Word.add (a.pending.getD ⟨bucket, g⟩ 0) count
      pure (true, ⟨a.pending.insert ⟨bucket, g⟩ n⟩, stats.recordKeypresses count.toNat)

def record [CounterStore σ] (s : σ) (a : Aggregator) (stats : Stats.Counters)
    (group : Option GroupId) (ts : Int) : Except Fault (Bool × Aggregator × Stats.Counters) :=
  a.recordCount s stats group ts 1

def pendingKeys (a : Aggregator) : Nat := a.pending.size

def pendingTotal (a : Aggregator) : Except Fault Int :=
  Word.sum (a.pending.toList.map (·.2))

def commitKey [CounterStore σ] (acc : σ × CommitReport) (entry : Key × Int) :
    Except Fault (σ × CommitReport) := do
  let (s, r) := acc
  let (⟨bucket, g⟩, count) := entry
  match ← CounterStore.upsert s bucket g count with
  | .ok s => pure (s, { r with written := r.written + 1, keypressesWritten := ← Word.add r.keypressesWritten count })
  | .error _ => pure (s, { r with failed := r.failed + 1, keypressesDropped := ← Word.add r.keypressesDropped count })

/-- The store a commit leaves when one of its writes faults: the writes before that one are made,
and so is the faulting one when only its accounting overflowed. -/
def storeAtFault [CounterStore σ] : List (Key × Int) → σ × CommitReport → σ
  | [], (s, _) => s
  | e :: es, acc =>
    match commitKey acc e with
    | .ok acc => storeAtFault es acc
    | .error _ =>
      match CounterStore.upsert acc.1 e.1.bucket e.1.group e.2 with
      | .ok (.ok s) => s
      | _ => acc.1

/-- Takes every pending count and writes it to the store; a commit that took any key is counted
in the statistics. -/
def commit [CounterStore σ] (s : σ) (a : Aggregator) (stats : Stats.Counters) :
    Except Fault (CommitReport × σ × Aggregator × Stats.Counters) := do
  let entries := a.pending.toList
  let (s, r) ← entries.foldlM commitKey (s, { buckets := entries.length })
  let stats := if r.buckets == 0 then stats else stats.recordCommit r.written r.failed r.keypressesDropped
  pure (r, s, {}, stats)

end Aggregator

end KeystrokeTally.Tally
