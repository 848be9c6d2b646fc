import KeystrokeTally.Config.Validate
import KeystrokeTally.Config.YamlFile
import KeystrokeTally.Config.JsonFile
import KeystrokeTally.Config.TomlFile

namespace KeystrokeTally.Config

/-- The formats of configuration files. -/
inductive FileFormat where
  | yaml
  | json
  | toml
  deriving DecidableEq, Repr, Inhabited

/-- The extension of the last component of a path: the text after its last `.`, unless that
dot starts the name. -/
def extension (path : String) : Option String :=
  let name := ((path.splitOn "/").filter (!·.isEmpty)).getLast?.getD ""
  match name.splitOn "." with
  | [] | [_] => none
  | parts =>
    if name.startsWith "." && parts.length == 2 then none
    else parts.getLast?

def FileFormat.ofPath (path : String) : FileFormat :=
  match extension path with
  | some "json" => .json
  | some "toml" => .toml
  | _ => .yaml

def Settings.parseText (f : FileFormat) (text : String) : Except ConfigError Settings :=
  match f with
  | .json =>
    match JsonFile.read text with
    | .error e => .error (.json e.render)
    | .ok v => .ok (Settings.ofValue v)
  | .yaml =>
    match YamlFile.read text with
    | .error f => .error (.yaml f.render)
    | .ok v => .ok (Settings.ofValue v)
  | .toml =>
    match TomlFile.read text with
    | .error e => .error (.toml (e.render text))
    | .ok v => .ok (Settings.ofValue v)

def loadFile (d : Disk.Tree) (path : String) : Except ConfigError Settings :=
  match d.readText path with
  | .error e => .error (.io path e)
  | .ok text => Settings.parseText (FileFormat.ofPath path) text

def defaultPaths (home : Option String) : List String :=
  (home.map fun h => [h ++ "/.keytally/config.yaml"]).getD [] ++ ["/etc/keytally/config.yaml", "./keytally.yaml"]

/-- The configuration of an explicit file, or of the first default location that exists, with
the path read; the defaults when there is none. -/
def load (d : Disk.Tree) (home : Option String) (path : Option String) :
    Except ConfigError (Settings × Option String) :=
  match path with
  | some p => do pure (← loadFile d p, some p)
  | none =>
    match (defaultPaths home).find? d.exists? with
    | some p => do pure (← loadFile d p, some p)
    | none => pure (Settings.defaults home, none)

/-- The settings the command line can give, each replacing the file's. -/
structure Overrides where
  noConfig : Bool := false
  config : Option String := none
  dbPath : Option String := none
  clusterSize : Option Int := none
  commitInterval : Option Nat := none
  syncInterval : Option Nat := none
  replayFile : Option String := none
  procRoot : Option String := none
  deriving Inhabited

/-- The configuration in effect: the file's (or the defaults without one), overridden by the
command line; with the path of the file read. -/
def resolve (d : Disk.Tree) (home : Option String) (o : Overrides) :
    Except ConfigError (Settings × Option String) := do
  let (s, source) ← if o.noConfig then pure (Settings.defaults home, none) else load d home o.config
  let s := { s with
    dbPath := o.dbPath.orElse fun _ => s.dbPath
    clusterSize := o.clusterSize.orElse fun _ => s.clusterSize
    commitIntervalSecs := o.commitInterval.orElse fun _ => s.commitIntervalSecs
    processSyncIntervalSecs := o.syncInterval.orElse fun _ => s.processSyncIntervalSecs
    replayFile := o.replayFile.orElse fun _ => s.replayFile
    procRoot := o.procRoot.orElse fun _ => s.procRoot }
  pure (s, source)

end KeystrokeTally.Config
