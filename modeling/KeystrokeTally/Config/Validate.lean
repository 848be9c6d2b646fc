import KeystrokeTally.Config.Basic
import KeystrokeTally.Disk.Tree

namespace KeystrokeTally.Config

/-- Why a configuration could not be read or used. -/
inductive ConfigError where
  | io (path : String) (cause : Disk.IoError)
  | yaml (message : String)
  | json (message : String)
  | toml (message : String)
  | duplicateGroupId (id : Int)
  | emptyPattern (group : Int) (kind : String)
  | invalidValue (field : String) (reason : String)

namespace ConfigError

def kind : ConfigError → String
  | .io _ _ => "Io"
  | .yaml _ => "Yaml"
  | .json _ => "Json"
  | .toml _ => "Toml"
  | .duplicateGroupId _ => "DuplicateGroupId"
  | .emptyPattern _ _ => "EmptyPattern"
  | .invalidValue _ _ => "InvalidValue"

def message : ConfigError → String
  | .io p e => "Failed to read config file " ++ p ++ ": " ++ e.message
  | .yaml m => "Invalid YAML configuration: " ++ m
  | .json m => "Invalid JSON configuration: " ++ m
  | .toml m => "Invalid TOML configuration: " ++ m
  | .duplicateGroupId i => "Duplicate group id " ++ toString i
  | .emptyPattern g k => "Group " ++ toString g ++ " has an empty " ++ k ++ " pattern"
  | .invalidValue f r => "Invalid value for " ++ f ++ ": " ++ r

end ConfigError

def blankPatternKind (g : GroupSpec) : Option String :=
  [("window_classes", g.windowClasses), ("terminal_processes", g.terminalProcesses),
   ("processes", g.processes)].findSome? fun (kind, ps) =>
    if ps.any Text.isBlankOnly then some kind else none

def checkGroups : List Int → List GroupSpec → Except ConfigError (List Int)
  | seen, [] => .ok seen
  | seen, g :: gs =>
    if seen.contains g.id then .error (.duplicateGroupId g.id)
    else match blankPatternKind g with
      | some kind => .error (.emptyPattern g.id kind)
      | none => checkGroups (seen ++ [g.id]) gs

def levelNames : String := "off, error, warn, info, debug, trace"

def Settings.checkScalars (s : Settings) : Except ConfigError Unit := do
  if s.effectiveClusterSize ≤ 0 then
    throw (.invalidValue "cluster_size" ("must be positive, got " ++ toString s.effectiveClusterSize))
  if s.commitInterval == 0 then throw (.invalidValue "commit_interval_secs" "must be positive")
  if s.syncInterval == 0 then throw (.invalidValue "process_sync_interval_secs" "must be positive")
  match s.logLevel with
  | some l =>
    if (Log.Level.parse l).isNone then
      throw (.invalidValue "log_level" ("'" ++ l ++ "' is not one of " ++ levelNames))
  | none => pure ()

def Settings.validate (s : Settings) : Except ConfigError Unit := do
  s.checkScalars
  let seen ← checkGroups [] s.groups
  match s.unmatchedGroup with
  | some u =>
    if seen.contains u then
      throw (.invalidValue "unmatched_group_id" (toString u ++ " is already used by a configured group"))
  | none => pure ()

/-- The ids of groups without any pattern among those the group checks pass before the first
failing group, in order. -/
def patternlessBefore : List Int → List GroupSpec → List Int
  | _, [] => []
  | seen, g :: gs =>
    if seen.contains g.id || (blankPatternKind g).isSome then []
    else
      (if g.windowClasses.isEmpty && g.terminalProcesses.isEmpty && g.processes.isEmpty then [g.id] else []) ++
        patternlessBefore (seen ++ [g.id]) gs

/-- The groups that checking a configuration finds without patterns: such a group never
matches, which is worth a warning but not an error. -/
def Settings.patternlessGroups (s : Settings) : List Int :=
  match s.checkScalars with
  | .ok () => patternlessBefore [] s.groups
  | .error _ => []

end KeystrokeTally.Config
