import KeystrokeTally.Arith.Checked
import KeystrokeTally.Disk.Tree
import KeystrokeTally.Classify.Group
import KeystrokeTally.Text.Escaped

namespace KeystrokeTally.Tally

/-- Seconds since the Unix epoch. -/
abbrev Timestamp := Int

def defaultClusterSize : Int := 900

def bucketStart (ts clusterSize : Int) : Except Fault Int := do
  let r ← Word.remEuclid ts clusterSize
  Word.sub ts r

end KeystrokeTally.Tally

namespace KeystrokeTally.Tally

open Classify (GroupId)

/-- The key of a counter: a bucket start and a group, ordered by bucket start and then group. -/
structure Key where
  bucket : Int
  group : GroupId
  deriving DecidableEq, Ord, Repr, Inhabited

/-- A failure reported by the database engine. -/
inductive DbError where
  | read (e : ReadError)
  | notADatabase
  | cannotOpen (path : String)

namespace DbError

def message : DbError → String
  | .read e => e.message
  | .notADatabase => "file is not a database"
  | .cannotOpen p => "unable to open database file: " ++ p

def code? : DbError → Option (Nat × String)
  | .read (.overflow) => some (1, "SQL logic error")
  | .read _ => none
  | .notADatabase => some (26, "File opened that is not a database file")
  | .cannotOpen _ => some (14, "Unable to open the database file")

def codeName : Nat → String
  | 14 => "CannotOpen"
  | 26 => "NotADatabase"
  | _ => "Unknown"

def dump (e : DbError) : String :=
  match e with
  | .read (.realColumn i c) => "InvalidColumnType(" ++ toString i ++ ", " ++ Text.quoteForDiagnostic c ++ ", Real)"
  | _ =>
    let code := (e.code?.map (·.1)).getD 1
    "SqliteFailure(Error \x7b code: " ++ codeName code ++ ", extended_code: " ++ toString code ++ " \x7d, Some(" ++
      Text.quoteForDiagnostic e.message ++ "))"

def causes (e : DbError) : List String :=
  match e.code? with
  | some (c, d) => [e.message, "Error code " ++ toString c ++ ": " ++ d]
  | none => []

end DbError

/-- Why a store refused an operation. -/
inductive StoreError where
  | database (e : DbError)
  | invalidClusterSize (size : Int)
  | location (path : String) (cause : Disk.IoError)
  | rejected (reason : String)

namespace StoreError

def kind : StoreError → String
  | .database _ => "Sqlite"
  | .invalidClusterSize _ => "InvalidClusterSize"
  | .location _ _ => "Io"
  | .rejected _ => "Rejected"

def message : StoreError → String
  | .database e => "SQLite error: " ++ e.message
  | .invalidClusterSize n => "Invalid cluster size " ++ toString n ++ ", must be positive"
  | .location p e => "Failed to prepare storage location " ++ p ++ ": " ++ e.message
  | .rejected r => "Write rejected: " ++ r

def dump : StoreError → String
  | .database e => "Sqlite(" ++ e.dump ++ ")"
  | .invalidClusterSize n => "InvalidClusterSize(" ++ toString n ++ ")"
  | .location p e => "Io \x7b path: " ++ Text.quoteForDiagnostic p ++ ", source: " ++ e.dump ++ " \x7d"
  | .rejected r => "Rejected(" ++ Text.quoteForDiagnostic r ++ ")"

def chain (e : StoreError) : String :=
  let causes := match e with
    | .database d => d.causes
    | .location _ io => [io.message]
    | _ => []
  causes.foldl (fun out c => out ++ ": " ++ c) e.message

end StoreError

def checkClusterSize (size : Int) : Except StoreError Int :=
  if 0 < size then .ok size else .error (.invalidClusterSize size)

/-- A key-press counter store. -/
class CounterStore (σ : Type) where
  clusterSize : σ → Int
  upsert : σ → Int → GroupId → Int → Except Fault (Except StoreError σ)

def CounterStore.bucketOf [CounterStore σ] (s : σ) (ts : Int) : Except Fault Int :=
  bucketStart ts (CounterStore.clusterSize s)

end KeystrokeTally.Tally
