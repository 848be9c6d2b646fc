import KeystrokeTally.Event.Filter
import KeystrokeTally.Replay.Source
import KeystrokeTally.Tally.Aggregator

namespace KeystrokeTally.Event

/-- Where events come from. -/
inductive Feed where
  | replay (r : Replay.Reader)
  | queue (events : List Raw)

namespace Feed

def next (f : Feed) (s : Scene) : Replay.Next × Feed × Scene :=
  match f with
  | .replay r => let (n, r, s) := r.next s; (n, .replay r, s)
  | .queue [] => (.exhausted, .queue [], s)
  | .queue (e :: es) => (.event e, .queue es, s)

def size : Feed → Nat
  | .replay r => r.lines.length
  | .queue es => es.length

end Feed

/-- The counts of one pump run. -/
structure PumpReport where
  events : Nat := 0
  keypresses : Nat := 0
  recorded : Nat := 0
  deriving DecidableEq, Repr

/-- Everything the pump reads and changes. -/
structure Pipeline (σ : Type) where
  feed : Feed
  scene : Scene
  filter : Filter
  aggregator : Tally.Aggregator := {}
  store : σ
  stats : Stats.Counters := {}

namespace Pipeline

variable {σ : Type} [Tally.CounterStore σ]

def feedEvent (p : Pipeline σ) (r : PumpReport) (e : Raw) : Except Fault (Pipeline σ × PumpReport) := do
  let r := { r with events := r.events + 1 }
  let (c, filter, stats) := p.filter.process p.scene p.stats e
  let p := { p with filter, stats }
  match c with
  | none => pure (p, r)
  | some c =>
    let r := { r with keypresses := r.keypresses + 1 }
    let (ok, aggregator, stats) ← p.aggregator.record p.store p.stats c.group c.timestamp
    pure ({ p with aggregator, stats }, if ok then { r with recorded := r.recorded + 1 } else r)

def pumpFrom : Nat → Pipeline σ → PumpReport → Except Fault (Except Replay.ReplayError PumpReport × Pipeline σ)
  | 0, p, r => pure (.ok r, p)
  | fuel + 1, p, r => do
    let (n, feed, scene) := p.feed.next p.scene
    let p := { p with feed, scene }
    match n with
    | .exhausted => pure (.ok r, p)
    | .failed e => pure (.error e, p)
    | .event e =>
      let (p, r) ← p.feedEvent r e
      pumpFrom fuel p r

def pump (p : Pipeline σ) (stopped : Bool) : Except Fault (Except Replay.ReplayError PumpReport × Pipeline σ) :=
  if stopped then pure (.ok {}, p) else pumpFrom (p.feed.size + 1) p {}

def commit (p : Pipeline σ) : Except Fault (Tally.CommitReport × Pipeline σ) := do
  let (r, store, aggregator, stats) ← p.aggregator.commit p.store p.stats
  pure (r, { p with store, aggregator, stats })

end Pipeline

/-- Reads events until the source ends or fails, filtering each; returns every event with what
the filter made of it, the error that stopped the source if any, and the final state. -/
def drain (fuel : Nat) (feed : Feed) (scene : Scene) (filter : Filter) (stats : Stats.Counters) :
    List (Raw × Option Classified) × Option Replay.ReplayError × Feed × Scene × Filter × Stats.Counters :=
  match fuel with
  | 0 => ([], none, feed, scene, filter, stats)
  | fuel + 1 =>
    let (n, feed, scene) := feed.next scene
    match n with
    | .exhausted => ([], none, feed, scene, filter, stats)
    | .failed e => ([], some e, feed, scene, filter, stats)
    | .event e =>
      let (c, filter, stats) := filter.process scene stats e
      let (rest, err, feed, scene, filter, stats) := drain fuel feed scene filter stats
      ((e, c) :: rest, err, feed, scene, filter, stats)

end KeystrokeTally.Event
