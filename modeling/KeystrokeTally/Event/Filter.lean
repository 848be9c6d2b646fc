import KeystrokeTally.Event.Basic
import KeystrokeTally.Window.Cache
import KeystrokeTally.Scene
import KeystrokeTally.Stats.Counters

namespace KeystrokeTally.Event

open Classify (GroupId)

/-- The rules, an optional memo of window metadata, and the group of unplaced key presses. -/
structure Filter where
  rules : Classify.Rules
  cache : Option Window.Cache := none
  unmatchedGroup : Option GroupId := none

namespace Filter

def className (f : Filter) (t : Window.Table) (w : Window.Handle) : String × Filter :=
  match f.cache with
  | some c => let (n, c) := c.className t w; (n, { f with cache := some c })
  | none => (t.className w, f)

def owner (f : Filter) (t : Window.Table) (w : Window.Handle) : Option Proc.Pid × Filter :=
  match f.cache with
  | some c => let (p, c) := c.owner t w; (p, { f with cache := some c })
  | none => (t.owner w, f)

def invalidate (f : Filter) (w : Window.Handle) : Filter :=
  { f with cache := f.cache.map (·.invalidate w) }

def outcome : Option Classify.Tier → Stats.Outcome
  | some .terminalDescendant => .terminal
  | some .process => .process
  | some .windowClass => .window
  | none => .unmatched

def process (f : Filter) (s : Scene) (stats : Stats.Counters) (e : Raw) :
    Option Classified × Filter × Stats.Counters :=
  let stats := stats.recordEvent
  match e with
  | .keyPress w ts =>
    let (className, f) := f.className s.windows w
    let (owner, f) := f.owner s.windows w
    let m := Classify.classify f.rules s.graph className owner
    let tier := m.map (·.tier)
    let group := (m.map (·.group)).orElse fun _ => f.unmatchedGroup
    (some ⟨group, tier, ts⟩, f, stats.recordOutcome (outcome tier))
  | .destroyNotify w => (none, f.invalidate w, stats.recordInvalidation)
  | .focusIn _ => (none, f, stats)

end Filter

end KeystrokeTally.Event
