import KeystrokeTally.Format.Json.Value
import KeystrokeTally.Decimal.Shortest
import KeystrokeTally.Text.Escaped

namespace KeystrokeTally.Json

def Value.unexpected : Value → String
  | .null => "null"
  | .bool b => "boolean `" ++ (if b then "true" else "false") ++ "`"
  | .num (.nat n) => "integer `" ++ toString n ++ "`"
  | .num (.neg i) => "integer `" ++ toString i ++ "`"
  | .num (.float x) =>
    "floating point `" ++ ((Decimal.shortest x).getD (if x.isNaN then "NaN" else if x < 0 then "-inf" else "inf")) ++ "`"
  | .str s => "string " ++ Text.quoteForDiagnostic s
  | .arr _ => "sequence"
  | .obj _ => "map"

def invalidType (v : Value) (expected : String) : String :=
  "invalid type: " ++ v.unexpected ++ ", expected " ++ expected

def invalidValue (v : Value) (expected : String) : String :=
  "invalid value: " ++ v.unexpected ++ ", expected " ++ expected

def invalidLength (n : Nat) (expected : String) : String :=
  "invalid length " ++ toString n ++ ", expected " ++ expected

def missingField (name : String) : String := "missing field `" ++ name ++ "`"

def duplicateField (name : String) : String := "duplicate field `" ++ name ++ "`"

def oneOf (names : List String) : String :=
  let q (n : String) := "`" ++ n ++ "`"
  match names with
  | [a] => q a
  | [a, b] => q a ++ " or " ++ q b
  | _ => "one of " ++ ", ".intercalate (names.map q)

def unknownVariant (tag : String) (names : List String) : String :=
  if names.isEmpty then "unknown variant `" ++ tag ++ "`, there are no variants"
  else "unknown variant `" ++ tag ++ "`, expected " ++ oneOf names

def elementsInSequence (n : Nat) : String :=
  if n == 1 then "1 element in sequence" else toString n ++ " elements in sequence"

namespace Expect

def unsigned (bits : Nat) (v : Value) : Except String Nat :=
  let name := "u" ++ toString bits
  match v with
  | .num (.nat n) => if n < Nat.pow 2 bits then .ok n else .error (invalidValue v name)
  | .num (.neg _) => .error (invalidValue v name)
  | v => .error (invalidType v name)

def signed (v : Value) : Except String Int :=
  match v with
  | .num (.nat n) => if n < Nat.pow 2 63 then .ok n else .error (invalidValue v "i64")
  | .num (.neg i) => .ok i
  | v => .error (invalidType v "i64")

def string (v : Value) : Except String String :=
  match v with
  | .str s => .ok s
  | v => .error (invalidType v "a string")

def bool (v : Value) : Except String Bool :=
  match v with
  | .bool b => .ok b
  | v => .error (invalidType v "a boolean")

def optional {α : Type} (read : Value → Except String α) (v : Value) : Except String (Option α) :=
  match v with
  | .null => .ok none
  | v => (read v).map some

end Expect

/-- One field of a record: its name, how its value is checked, and whether it may be absent. -/
structure FieldSpec where
  name : String
  check : Value → Except String Unit
  optional : Bool

/-- Visits the members of an object in order, checking each known field when it is met and
refusing a repeated one; returns the value of each field that was given. -/
def collectFields (fields : List FieldSpec) (members : List (String × Value)) :
    Except String (List (String × Value)) :=
  members.foldlM
    (fun (acc : List (String × Value)) (k, v) =>
      match fields.find? (·.name == k) with
      | none => .ok acc
      | some f =>
        if acc.any (·.1 == k) then .error (duplicateField k)
        else do f.check v; pure (acc ++ [(k, v)]))
    []

/-- Takes fields by position from the elements of an array; a missing field that may be absent
is left out, and a missing one that may not makes the array too short (`expecting` names the
record). Elements beyond the fields make it too long. -/
def positionalFields (expecting : String) (fields : List FieldSpec) (elems : List Value) :
    Except String (List (String × Value)) := do
  let count := fields.length
  let full := expecting ++ " with " ++ toString count ++ (if count == 1 then " element" else " elements")
  let rec go : Nat → List FieldSpec → List Value → Except String (List (String × Value))
    | _, [], rest =>
      if rest.isEmpty then .ok [] else .error (invalidLength (count + rest.length) (elementsInSequence count))
    | i, f :: fs, [] =>
      if f.optional then go (i + 1) fs [] else .error (invalidLength i full)
    | i, f :: fs, v :: vs => do
      f.check v
      let rest ← go (i + 1) fs vs
      pure ((f.name, v) :: rest)
  go 0 fields elems

def recordFields (expecting : String) (fields : List FieldSpec) : Value → Except String (List (String × Value))
  | .obj ms => do
    let given ← collectFields fields ms
    match fields.find? fun f => !f.optional && !given.any (·.1 == f.name) with
    | some f => .error (missingField f.name)
    | none => pure given
  | .arr xs => positionalFields expecting fields xs
  | v => .error (invalidType v expecting)

def fieldOr {α : Type} (given : List (String × Value)) (name : String) (read : Value → Except String α)
    (default : α) : Except String α :=
  match given.find? (·.1 == name) with
  | some (_, v) => read v
  | none => .ok default

end KeystrokeTally.Json
