import KeystrokeTally.Text.Blank
import KeystrokeTally.Decimal.Shortest

namespace KeystrokeTally.Stats

/-- A running summary of samples. -/
structure Running where
  count : Nat := 0
  sum : Float := 0
  last : Float := 0
  least : Float := 0
  greatest : Float := 0

def Running.record (s : Running) (v : Float) : Running :=
  if s.count == 0 then ⟨1, v, v, v, v⟩
  else
    { count := s.count + 1, sum := s.sum + v, last := v,
      least := if v < s.least then v else s.least,
      greatest := if v > s.greatest then v else s.greatest }

/-- The summary as reported: count, last, least, greatest and mean (zero with no samples). -/
structure Summary where
  count : Nat
  last : Float
  least : Float
  greatest : Float
  mean : Float

def Running.summary (s : Running) : Summary :=
  ⟨s.count, s.last, s.least, s.greatest, if s.count == 0 then 0 else s.sum / s.count.toFloat⟩

def summarize (vs : List Float) : Summary :=
  (vs.foldl Running.record {}).summary

def Summary.zero : Summary := ({} : Running).summary

end KeystrokeTally.Stats

namespace KeystrokeTally.Stats

/-- Which tier classified a key press, as the statistics count it. -/
inductive Outcome where
  | terminal
  | process
  | window
  | unmatched

/-- Every counter of one collector. -/
structure Counters where
  eventsReceived : Nat := 0
  keypressesRecorded : Nat := 0
  keypressesUnmatched : Nat := 0
  terminalMatches : Nat := 0
  processMatches : Nat := 0
  windowMatches : Nat := 0
  windowInvalidations : Nat := 0
  processSyncs : Nat := 0
  processSyncFailures : Nat := 0
  processesRemoved : Nat := 0
  trackedProcesses : Running := {}
  commits : Nat := 0
  commitFailures : Nat := 0
  bucketsWritten : Nat := 0
  bucketsDropped : Nat := 0
  keypressesDropped : Nat := 0

namespace Counters

def bump (counter n : Nat) : Nat := (counter + n) % Nat.pow 2 64

def recordEvent (c : Counters) : Counters := { c with eventsReceived := c.eventsReceived + 1 }

def recordOutcome (c : Counters) : Outcome → Counters
  | .terminal => { c with terminalMatches := c.terminalMatches + 1 }
  | .process => { c with processMatches := c.processMatches + 1 }
  | .window => { c with windowMatches := c.windowMatches + 1 }
  | .unmatched => { c with keypressesUnmatched := c.keypressesUnmatched + 1 }

def recordKeypresses (c : Counters) (n : Nat) : Counters :=
  { c with keypressesRecorded := bump c.keypressesRecorded n }

def recordInvalidation (c : Counters) : Counters :=
  { c with windowInvalidations := c.windowInvalidations + 1 }

def recordSync (c : Counters) (tracked removed : Nat) : Counters :=
  { c with processSyncs := c.processSyncs + 1, processesRemoved := c.processesRemoved + removed,
           trackedProcesses := c.trackedProcesses.record tracked.toFloat }

def recordSyncFailure (c : Counters) : Counters :=
  { c with processSyncFailures := c.processSyncFailures + 1 }

def recordCommit (c : Counters) (written dropped : Nat) (droppedCount : Int) : Counters :=
  let c := { c with commits := c.commits + 1, bucketsWritten := c.bucketsWritten + written }
  if dropped > 0 then
    { c with commitFailures := c.commitFailures + 1, bucketsDropped := c.bucketsDropped + dropped,
             keypressesDropped := bump c.keypressesDropped droppedCount.toNat }
  else c

def counterRow (label : String) (value : Nat) : String :=
  Text.padRight label 26 ++ " | " ++ Text.padLeft (toString value) 12 ++ "\n"

def summaryRow (label : String) (s : Summary) : String :=
  let cell (x : Float) := Text.center (Decimal.fixed 1 x) 12
  Text.padRight label 26 ++ " | " ++ cell s.last ++ " | " ++ cell s.mean ++ " | " ++
    cell s.greatest ++ " | " ++ cell s.least ++ "\n"

def renderTable (c : Counters) (uptime : Nat) (syncDuration commitDuration : Summary) : String :=
  "KEYTALLY COLLECTOR STATS\n========================\nuptime: " ++ toString uptime ++ "s\n" ++
  "\nEVENTS\n------\n" ++
  counterRow "events_received" c.eventsReceived ++
  counterRow "keypresses_recorded" c.keypressesRecorded ++
  counterRow "keypresses_unmatched" c.keypressesUnmatched ++
  counterRow "terminal_matches" c.terminalMatches ++
  counterRow "process_matches" c.processMatches ++
  counterRow "window_matches" c.windowMatches ++
  counterRow "window_invalidations" c.windowInvalidations ++
  "\nPROCESS MONITOR\n---------------\n" ++
  counterRow "process_syncs" c.processSyncs ++
  counterRow "process_sync_failures" c.processSyncFailures ++
  counterRow "processes_removed" c.processesRemoved ++
  "\nSTORAGE\n-------\n" ++
  counterRow "commits" c.commits ++
  counterRow "commit_failures" c.commitFailures ++
  counterRow "buckets_written" c.bucketsWritten ++
  counterRow "buckets_dropped" c.bucketsDropped ++
  counterRow "keypresses_dropped" c.keypressesDropped ++
  "\n" ++ Text.padRight "" 26 ++ " | " ++ Text.center "current" 12 ++ " | " ++
    Text.center "average" 12 ++ " | " ++ Text.center "max" 12 ++ " | " ++ Text.center "min" 12 ++ "\n" ++
  summaryRow "tracked_processes" c.trackedProcesses.summary ++
  summaryRow "sync_duration (ms)" syncDuration ++
  summaryRow "commit_duration (ms)" commitDuration

end Counters

end KeystrokeTally.Stats
