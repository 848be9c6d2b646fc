import KeystrokeTally.Host
import KeystrokeTally.Event.Pump
import KeystrokeTally.Proc.Source
import KeystrokeTally.Config.Basic

namespace KeystrokeTally

/-- A built collector. -/
structure Collector where
  dbPath : String
  hostRoot : Option String
  pipeline : Event.Pipeline (Tally.Database Tally.CounterFile)

namespace Collector

/-- A signal asking the collector to stop. -/
inductive Signal where
  | term
  | int
  deriving DecidableEq, Repr

def Signal.notice : Signal → String
  | .term => "Received SIGTERM, shutting down gracefully..."
  | .int => "Received SIGINT (Ctrl+C), shutting down gracefully..."

/-- Why the collector stopped. -/
inductive StopReason where
  | signal
  | sourceExhausted
  | sourceFailed
  deriving DecidableEq, Repr

def StopReason.name : StopReason → String
  | .signal => "Signal"
  | .sourceExhausted => "SourceExhausted"
  | .sourceFailed => "SourceFailed"

/-- Why the collector could not be built. -/
inductive BuildError where
  | database (path : String) (e : Tally.StoreError)
  | replay (path : String) (e : Replay.ReplayError)

def BuildError.render : BuildError → String
  | .database p e => "Failed to open database " ++ p ++ ": " ++ e.chain
  | .replay p e => "Failed to open replay file " ++ p ++ ": " ++ e.chain

def target : String := "keytally::daemon"

open HostM

def build (s : Config.Settings) : HostM (Except BuildError Collector) := do
  let path := s.effectiveDbPath (← home)
  match ← openDatabase path s.effectiveClusterSize with
  | .error e => return .error (.database path e)
  | .ok db =>
    log .info target ("Database ready at " ++ path ++ " (" ++ toString db.rowCount ++ " rows, cluster size " ++
      toString s.effectiveClusterSize ++ "s)")
    let source : Except BuildError (Replay.Reader × Option String) ← match s.replayFile with
      | some file =>
        match Replay.Reader.openAt (← disk) file with
        | .error e => pure (.error (.replay file e))
        | .ok r =>
          log .debug "keytally::events::replay" ("Replaying events from " ++ file)
          log .info target ("Event source: replay file " ++ file)
          pure (.ok (r, none))
      | none =>
        log .info target "Event source: JSON lines on stdin"
        pure (.ok (Replay.Reader.ofText "<stdin>" (← get).stdin, some s.effectiveProcRoot))
    match source with
    | .error e => return .error e
    | .ok (reader, hostRoot) =>
      let rules := s.rules
      log .info target ("Loaded " ++ toString rules.groups.length ++ " application groups")
      if rules.groups.isEmpty then
        log .warn target "⚠️  No groups configured - every key press will be unmatched"
      let filter : Event.Filter := ⟨rules, some {}, s.unmatchedGroup⟩
      let pipeline : Event.Pipeline (Tally.Database Tally.CounterFile) := { feed := .replay reader, scene := {}, filter, store := db }
      return .ok { dbPath := path, hostRoot, pipeline }

def processSource (c : Collector) : Proc.Source :=
  match c.hostRoot with
  | some root => .layered (.procfs root) c.pipeline.scene.processes
  | none => .table c.pipeline.scene.processes

def syncOnce (c : Collector) : HostM Collector := do
  let d ← disk
  if let some root := c.hostRoot then
    if let .ok (es, _) := Proc.readProcfs d root then
      log .debug "keytally::process::source" ("Enumerated " ++ toString es.length ++ " processes under " ++ root)
  let p := c.pipeline
  match Proc.sync d c.processSource p.scene.graph p.stats with
  | .ok (graph, stats, report, _) =>
    log .info target ("Initial process sync: " ++ toString report.tracked ++ " processes")
    return { c with pipeline := { p with scene := { p.scene with graph }, stats } }
  | .error (e, stats) =>
    log .warn target ("Initial process sync failed: " ++ e.message)
    return { c with pipeline := { p with stats } }

/-- Runs the collector until its source ends, or, when it reads standard input (which stays open),
until `signal` arrives once the input is read; returns why it stopped and the collector after its
final commit. -/
def run (c : Collector) (signal : Option Signal) : HostM (StopReason × Collector) := do
  let c ← c.syncOnce
  log .info "keytally::process::monitor" "Process monitor started (interval 5s)"
  log .info "keytally::storage::aggregator" "Committer started (interval 5s)"
  log .info target "✅ Collector running"
  let (reason, p) ← match c.pipeline.pump false with
    | .error _ =>
      log .error target "❌ Event pump thread terminated unexpectedly"
      pure (StopReason.sourceFailed, c.pipeline)
    | .ok (.error e, p) =>
      log .error target ("❌ Event source failed: " ++ e.message)
      pure (StopReason.sourceFailed, p)
    | .ok (.ok r, p) =>
      match signal, c.hostRoot with
      | some sig, some _ =>
        log .info target sig.notice
        pure (StopReason.signal, p)
      | _, _ =>
        log .debug "keytally::events" ("Event source exhausted after " ++ toString r.events ++ " events")
        log .info target ("Event source exhausted: " ++ toString r.events ++ " events, " ++ toString r.keypresses ++
          " key presses, " ++ toString r.recorded ++ " recorded")
        pure (StopReason.sourceExhausted, p)
  let p ← match p.commit with
    | .ok (report, p) =>
      if report.written > 0 then
        log .info "keytally::storage::aggregator" ("Committed " ++ toString report.keypressesWritten ++
          " keystrokes in " ++ toString report.written ++ " buckets")
      log .info "keytally::storage::aggregator" ("Committer stopped after final commit (" ++
        toString report.written ++ " keys written, " ++ toString report.failed ++ " dropped)")
      pure p
    | .error _ =>
      log .info "keytally::storage::aggregator" "Committer stopped after final commit (0 keys written, 0 dropped)"
      let entries := p.aggregator.pending.toList
      pure { p with store := Tally.Aggregator.storeAtFault entries (p.store, { buckets := entries.length }),
                    aggregator := {} }
  setDisk (p.store.saveAt (← disk) c.dbPath)
  log .info "keytally::process::monitor" "Process monitor stopped"
  log .debug target ("Final graph size: " ++ toString p.scene.graph.size ++ " nodes")
  log .info target ("Collector stopped (" ++ reason.name ++ ")\n" ++
    p.stats.renderTable 0 Stats.Summary.zero Stats.Summary.zero)
  return (reason, { c with pipeline := p })

end Collector

end KeystrokeTally
