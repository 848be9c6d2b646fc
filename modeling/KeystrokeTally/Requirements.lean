import KeystrokeTally.Host
import KeystrokeTally.Config.Basic
import KeystrokeTally.Text.Digits
import KeystrokeTally.Arith.Checked

namespace KeystrokeTally

/-- Why a requirement is not met. -/
inductive ValidationError where
  | procRoot (path reason : String)
  | database (path reason : String)
  | replayFile (path reason : String)
  deriving DecidableEq, Repr

namespace ValidationError

def kind : ValidationError → String
  | .procRoot .. => "ProcRoot"
  | .database .. => "Database"
  | .replayFile .. => "ReplayFile"

def message : ValidationError → String
  | .procRoot p r => "Process root " ++ p ++ " is not readable: " ++ r
  | .database p r => "Database location " ++ p ++ " is not usable: " ++ r
  | .replayFile p r => "Replay file " ++ p ++ " is not readable: " ++ r

end ValidationError

namespace Requirements

def target : String := "keytally::startup_checks"

def namesPid (name : String) : Bool :=
  (Text.readUnsigned name Word.maxPid).isSome

def checkProcAccess (root : String) : HostM (Except ValidationError Unit) := do
  match (← HostM.disk).list root with
  | .error e =>
    HostM.log .error target ("❌ Cannot list " ++ root ++ ": " ++ e.message)
    return .error (.procRoot root e.message)
  | .ok names =>
    if names.any namesPid then
      HostM.log .info target ("✅ Process table readable at " ++ root)
      return .ok ()
    else
      HostM.log .error target ("❌ " ++ root ++ " contains no process entries")
      return .error (.procRoot root "no numeric process directories found")

def ancestors (path : String) : List String :=
  let rec go : Nat → String → List String
    | 0, _ => []
    | n + 1, p =>
      match Disk.Tree.parentText p with
      | some q => q :: go n q
      | none => []
  go (path.length + 1) path

def checkDbLocation (path : String) : HostM (Except ValidationError Unit) := do
  let d ← HostM.disk
  let place :=
    if d.exists? path then path
    else ((ancestors path).find? d.exists?).getD Disk.workName
  match d.stat place with
  | .error e => return .error (.database path e.message)
  | .ok item =>
    if item.readonly then
      HostM.log .error target ("❌ " ++ place ++ " is read-only")
      return .error (.database path (place ++ " is read-only"))
    else
      HostM.log .info target ("✅ Database location usable: " ++ path)
      return .ok ()

def checkReplayFile (path : String) : HostM (Except ValidationError Unit) := do
  match (← HostM.disk).stat path with
  | .ok (.file _ _) =>
    HostM.log .info target ("✅ Replay file found: " ++ path)
    return .ok ()
  | .ok (.dir _) => return .error (.replayFile path "not a regular file")
  | .error e => return .error (.replayFile path e.message)

def validate (s : Config.Settings) : HostM (Except ValidationError Unit) := do
  HostM.log .info target "🔍 Validating runtime requirements..."
  HostM.log .warn target "⚠️  Running as root - the database will be owned by root"
  match ← checkDbLocation (s.effectiveDbPath (← HostM.home)) with
  | .error e => return .error e
  | .ok () =>
    let r ← match s.replayFile with
      | some replay => checkReplayFile replay
      | none => checkProcAccess s.effectiveProcRoot
    match r with
    | .error e => return .error e
    | .ok () =>
      HostM.log .info target "✅ All runtime requirements validated"
      return .ok ()

end Requirements

end KeystrokeTally
