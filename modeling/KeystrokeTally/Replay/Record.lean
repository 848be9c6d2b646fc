import KeystrokeTally.Proc.Table
import KeystrokeTally.Window.Metadata
import KeystrokeTally.Format.Json.Tagged
import KeystrokeTally.Format.Json.Writer

namespace KeystrokeTally.Replay

open Proc (Pid)

/-- One line of a replay file. -/
inductive Record where
  | process (pid ppid : Pid) (name : String)
  | processExit (pid : Pid)
  | window (window : Window.Handle) (className : String) (owner : Option Int)
  | keyPress (window : Window.Handle) (timestamp : Option Int)
  | destroyNotify (window : Window.Handle)
  | focusIn (window : Window.Handle)
  deriving DecidableEq, Repr, Inhabited

def tags : List String := ["process", "process_exit", "window", "key_press", "destroy_notify", "focus_in"]

namespace Record

open Json in
def toJson : Record → Value
  | .process p q n => .obj [("type", .str "process"), ("pid", .nat p), ("ppid", .nat q), ("name", .str n)]
  | .processExit p => .obj [("type", .str "process_exit"), ("pid", .nat p)]
  | .window w c o =>
    .obj [("type", .str "window"), ("window", .nat w), ("class_name", .str c), ("owner_pid", Value.opt Value.int o)]
  | .keyPress w t =>
    .obj ([("type", .str "key_press"), ("window", .nat w)] ++ (t.map fun t => ("timestamp", Value.int t)).toList)
  | .destroyNotify w => .obj [("type", .str "destroy_notify"), ("window", .nat w)]
  | .focusIn w => .obj [("type", .str "focus_in"), ("window", .nat w)]

def render (r : Record) : String := r.toJson.compact

open Json in
def ofContent (i : Nat) (content : Value) : Except String Record :=
  let check {α : Type} (read : Value → Except String α) : Value → Except String Unit :=
    fun v => do let _ ← read v
  let pid (n : String) : FieldSpec := ⟨n, check (Expect.unsigned 32), false⟩
  let window : FieldSpec := ⟨"window", check (Expect.unsigned 64), false⟩
  let u32 := Expect.unsigned 32
  let u64 := Expect.unsigned 64
  match i with
  | 0 => do
    let fs ← recordFields "struct variant ReplayRecord::Process"
      [pid "pid", pid "ppid", ⟨"name", check Expect.string, false⟩] content
    pure (.process (← fieldOr fs "pid" u32 0) (← fieldOr fs "ppid" u32 0) (← fieldOr fs "name" Expect.string ""))
  | 1 => do
    let fs ← recordFields "struct variant ReplayRecord::ProcessExit" [pid "pid"] content
    pure (.processExit (← fieldOr fs "pid" u32 0))
  | 2 => do
    let fs ← recordFields "struct variant ReplayRecord::Window"
      [window, ⟨"class_name", check Expect.string, true⟩, ⟨"owner_pid", check (Expect.optional Expect.signed), true⟩]
      content
    pure (.window (← fieldOr fs "window" u64 0) (← fieldOr fs "class_name" Expect.string "")
      (← fieldOr fs "owner_pid" (Expect.optional Expect.signed) none))
  | 3 => do
    let fs ← recordFields "struct variant ReplayRecord::KeyPress"
      [window, ⟨"timestamp", check (Expect.optional Expect.signed), true⟩] content
    pure (.keyPress (← fieldOr fs "window" u64 0) (← fieldOr fs "timestamp" (Expect.optional Expect.signed) none))
  | 4 => do
    let fs ← recordFields "struct variant ReplayRecord::DestroyNotify" [window] content
    pure (.destroyNotify (← fieldOr fs "window" u64 0))
  | _ => do
    let fs ← recordFields "struct variant ReplayRecord::FocusIn" [window] content
    pure (.focusIn (← fieldOr fs "window" u64 0))

def parse (s : String) : Except Json.Error Record := do
  let (i, content, c) ← Json.readTagged "type" tags "internally tagged enum ReplayRecord" s
  let r ← match ofContent i content with
    | .ok r => pure r
    | .error m => throw (⟨m, 0, 0⟩ : Json.Error)
  c.finish
  pure r

open Json in
def ofValue (v : Value) : Except String Record :=
  match v with
  | .obj ms =>
    match ms.find? (·.1 == "type") with
    | none => .error (missingField "type")
    | some (_, .str t) =>
      match tags.idxOf? t with
      | some i => ofContent i (.obj (ms.filter (·.1 != "type")))
      | none => .error (unknownVariant t tags)
    | some (_, t) => .error (invalidType t "variant identifier")
  | .arr (.str t :: rest) =>
    match tags.idxOf? t with
    | some i => ofContent i (.arr rest)
    | none => .error (unknownVariant t tags)
  | .arr [] => .error (missingField "type")
  | .arr (t :: _) => .error (invalidType t "variant identifier")
  | v => .error (invalidType v "internally tagged enum ReplayRecord")

end Record

def writeRecords (rs : List Record) : String :=
  String.join (rs.map fun r => r.render ++ "\n")

end KeystrokeTally.Replay
