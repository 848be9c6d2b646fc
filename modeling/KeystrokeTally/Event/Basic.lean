import KeystrokeTally.Window.Metadata
import KeystrokeTally.Classify.Tier
import KeystrokeTally.Format.Json.Expect

namespace KeystrokeTally.Event

open Classify (GroupId Tier)

/-- A window event. -/
inductive Raw where
  | keyPress (window : Window.Handle) (timestamp : Int)
  | destroyNotify (window : Window.Handle)
  | focusIn (window : Window.Handle)
  deriving DecidableEq, Repr, Inhabited

def Raw.window : Raw → Window.Handle
  | .keyPress w _ => w
  | .destroyNotify w => w
  | .focusIn w => w

def Raw.kind : Raw → String
  | .keyPress _ _ => "key_press"
  | .destroyNotify _ => "destroy_notify"
  | .focusIn _ => "focus_in"

def kinds : List String := ["key_press", "destroy_notify", "focus_in"]

def Raw.ofValue (v : Json.Value) : Except String Raw := do
  let some ms := v.members? | .error (Json.invalidType v "internally tagged enum RawEvent")
  let some (_, tag) := ms.find? (·.1 == "kind") | .error (Json.missingField "kind")
  let tag ← Json.Expect.string tag
  let window : Json.FieldSpec := ⟨"window", fun v => do let _ ← Json.Expect.unsigned 64 v, false⟩
  let content := Json.Value.obj (ms.filter (·.1 != "kind"))
  match tag with
  | "key_press" =>
    let stamp : Json.FieldSpec := ⟨"timestamp", fun v => do let _ ← Json.Expect.signed v, false⟩
    let fs ← Json.recordFields "struct variant RawEvent::KeyPress" [window, stamp] content
    pure (.keyPress (← Json.fieldOr fs "window" (Json.Expect.unsigned 64) 0)
      (← Json.fieldOr fs "timestamp" Json.Expect.signed 0))
  | "destroy_notify" =>
    let fs ← Json.recordFields "struct variant RawEvent::DestroyNotify" [window] content
    pure (.destroyNotify (← Json.fieldOr fs "window" (Json.Expect.unsigned 64) 0))
  | "focus_in" =>
    let fs ← Json.recordFields "struct variant RawEvent::FocusIn" [window] content
    pure (.focusIn (← Json.fieldOr fs "window" (Json.Expect.unsigned 64) 0))
  | other => .error (Json.unknownVariant other kinds)

/-- A key press with the group it counts for, the tier that placed it, and its timestamp. -/
structure Classified where
  group : Option GroupId
  tier : Option Tier
  timestamp : Int
  deriving DecidableEq, Repr

end KeystrokeTally.Event
