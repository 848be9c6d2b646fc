import KeystrokeTally.Arith.Checked
import KeystrokeTally.Decimal.Display
import KeystrokeTally.Text.Escaped

namespace KeystrokeTally.Config

/-- The records of a configuration. -/
inductive Record where
  | settings
  | group
  deriving DecidableEq, Repr, Inhabited

/-- What a setting holds. -/
inductive Shape where
  | i64
  | u64
  | bool
  | text
  | path
  | option (s : Shape)
  | list (s : Shape)
  | record (r : Record)
  deriving DecidableEq, Repr, Inhabited

/-- A field of a record: its name, its dashed spelling, its shape, and whether it has an explicit
default. -/
structure Field where
  name : String
  dashed : Option String := none
  shape : Shape
  defaulted : Bool := false
  deriving Repr, Inhabited

def Record.name : Record → String
  | .settings => "Config"
  | .group => "GroupConfig"

def Record.fields : Record → List Field
  | .settings =>
    [{ name := "db_path", dashed := some "db-path", shape := .option .path },
     { name := "cluster_size", dashed := some "cluster-size", shape := .option .i64 },
     { name := "commit_interval_secs", dashed := some "commit-interval-secs", shape := .option .u64 },
     { name := "process_sync_interval_secs", dashed := some "process-sync-interval-secs", shape := .option .u64 },
     { name := "proc_root", dashed := some "proc-root", shape := .option .path },
     { name := "log_level", dashed := some "log-level", shape := .option .text },
     { name := "replay_file", dashed := some "replay-file", shape := .option .path },
     { name := "count_unmatched", dashed := some "count-unmatched", shape := .option .bool },
     { name := "unmatched_group_id", dashed := some "unmatched-group-id", shape := .option .i64 },
     { name := "groups", shape := .list (.record .group), defaulted := true }]
  | .group =>
    [{ name := "id", shape := .i64 },
     { name := "name", shape := .option .text, defaulted := true },
     { name := "window_classes", dashed := some "window-classes", shape := .list .text, defaulted := true },
     { name := "terminal_processes", dashed := some "terminal-processes", shape := .list .text,
       defaulted := true },
     { name := "processes", shape := .list .text, defaulted := true }]

def Record.expecting (r : Record) : String := "struct " ++ r.name

def Record.expectingElements (r : Record) : String :=
  r.expecting ++ " with " ++ toString r.fields.length ++ " elements"

def Shape.expecting : Shape → String
  | .i64 => "i64"
  | .u64 => "u64"
  | .bool => "a boolean"
  | .text => "a string"
  | .path => "path string"
  | .option _ => "option"
  | .list _ => "a sequence"
  | .record r => r.expecting

def Record.field? (r : Record) (key : String) : Option Field :=
  r.fields.find? fun f => f.name == key || f.dashed == some key

/-- A value read from a configuration file. -/
inductive Value where
  | int (i : Int)
  | bool (b : Bool)
  | text (s : String)
  | none
  | some (v : Value)
  | list (vs : List Value)
  | record (fields : List (String × Value))
  deriving Repr, Inhabited

/-- The value of a field left out of a mapping: its default, absence for an optional field,
and nothing for a required one. -/
def Field.missing (f : Field) : Option Value :=
  match f.shape with
  | .option _ => some .none
  | .list _ => if f.defaulted then some (.list []) else Option.none
  | _ => Option.none

/-- The value of a field left out of a sequence: only a field with an explicit default may be
left out. -/
def Field.missingElement (f : Field) : Option Value :=
  if f.defaulted then f.missing else Option.none

/-- What a file held where a reader wanted something else. -/
inductive Unexpected where
  | bool (b : Bool)
  | unsigned (n : Nat)
  | signed (i : Int)
  | float (x : Float)
  | str (s : String)
  | unit
  | seq
  | map
  | other (text : String)
  deriving Inhabited

def Unexpected.render (json : Bool) : Unexpected → String
  | .bool b => "boolean `" ++ (if b then "true" else "false") ++ "`"
  | .unsigned n => "integer `" ++ toString n ++ "`"
  | .signed i => "integer `" ++ toString i ++ "`"
  | .float x =>
    "floating point `" ++ (if json then (Decimal.exponential x).getD (Decimal.display x) else Decimal.pointed x) ++ "`"
  | .str s => "string " ++ Text.quoteForDiagnostic s
  | .unit => if json then "null" else "unit value"
  | .seq => "sequence"
  | .map => "map"
  | .other t => t

def invalidType (json : Bool) (u : Unexpected) (expecting : String) : String :=
  "invalid type: " ++ u.render json ++ ", expected " ++ expecting

def invalidValue (json : Bool) (u : Unexpected) (expecting : String) : String :=
  "invalid value: " ++ u.render json ++ ", expected " ++ expecting

def invalidLength (n : Nat) (expecting : String) : String :=
  "invalid length " ++ toString n ++ ", expected " ++ expecting

def missingField (name : String) : String := "missing field `" ++ name ++ "`"

def duplicateField (name : String) : String := "duplicate field `" ++ name ++ "`"

/-- Reads a scalar as a shape that takes scalars: integers within the range of the field's
type, booleans, and any text as text or path. -/
def Shape.ofScalar (json : Bool) (s : Shape) (u : Unexpected) : Except String Value :=
  match s, u with
  | .i64, .signed i => if Word.min ≤ i && i ≤ Word.max then .ok (.int i) else .error (invalidValue json u "i64")
  | .i64, .unsigned n => if (n : Int) ≤ Word.max then .ok (.int n) else .error (invalidValue json u "i64")
  | .u64, .unsigned n => if n ≤ Word.maxUnsigned then .ok (.int n) else .error (invalidValue json u "u64")
  | .u64, .signed i => if 0 ≤ i then .ok (.int i) else .error (invalidValue json u "u64")
  | .bool, .bool b => .ok (.bool b)
  | .text, .str t => .ok (.text t)
  | .path, .str t => .ok (.text t)
  | s, u => .error (invalidType json u s.expecting)

/-- Completes a record read from a mapping: the given fields in declaration order, each field
not given taking its default, the first one without a default reported missing. -/
def Record.complete (r : Record) (given : List (String × Value)) : Except String Value := do
  let fields ← r.fields.mapM fun f =>
    match given.find? (·.1 == f.name) with
    | some (_, v) => pure (f.name, v)
    | Option.none =>
      match f.missing with
      | some v => pure (f.name, v)
      | Option.none => throw (missingField f.name)
  pure (.record fields)

def Value.field? (v : Value) (name : String) : Option Value :=
  match v with
  | .record fs => (fs.find? (·.1 == name)).map (·.2)
  | _ => Option.none

def Value.int? : Value → Option Int
  | .int i => Option.some i
  | _ => Option.none

def Value.text? : Value → Option String
  | .text s => Option.some s
  | _ => Option.none

def Value.bool? : Value → Option Bool
  | .bool b => Option.some b
  | _ => Option.none

def Value.present? : Value → Option Value
  | .some v => Option.some v
  | _ => Option.none

def Value.elements : Value → List Value
  | .list vs => vs
  | _ => []

end KeystrokeTally.Config
