import KeystrokeTally.Config.Load
import KeystrokeTally.Format.Json.Writer
import KeystrokeTally.Format.Writer

namespace KeystrokeTally.Config

open Format (Doc)

def GroupSpec.toDoc (g : GroupSpec) : Doc :=
  let strings (xs : List String) : Doc := .seq (xs.map Doc.str)
  .map ([("id", .int g.id)] ++ (g.name.map fun n => ("name", Doc.str n)).toList ++
    [("window_classes", strings g.windowClasses), ("terminal_processes", strings g.terminalProcesses),
     ("processes", strings g.processes)])

def Settings.toDoc (s : Settings) : Doc :=
  let opt {α : Type} (f : α → Doc) : Option α → Doc := fun o => (o.map f).getD .null
  .map [("db_path", opt .str s.dbPath), ("cluster_size", opt .int s.clusterSize),
    ("commit_interval_secs", opt (fun n => .int n) s.commitIntervalSecs),
    ("process_sync_interval_secs", opt (fun n => .int n) s.processSyncIntervalSecs),
    ("proc_root", opt .str s.procRoot), ("log_level", opt .str s.logLevel),
    ("replay_file", opt .str s.replayFile), ("count_unmatched", opt .bool s.countUnmatched),
    ("unmatched_group_id", opt .int s.unmatchedGroupId),
    ("groups", .seq (s.groups.map GroupSpec.toDoc))]

mutual

def toJson : Doc → Json.Value
  | .null => .null
  | .bool b => .bool b
  | .int i => Json.Value.int i
  | .float x => .num (.float x)
  | .str s => .str s
  | .seq xs => .arr (toJsonElems xs)
  | .map es => .obj (toJsonMembers es)

def toJsonElems : List Doc → List Json.Value
  | [] => []
  | x :: xs => toJson x :: toJsonElems xs

def toJsonMembers : List (String × Doc) → List (String × Json.Value)
  | [] => []
  | (k, v) :: es => (k, toJson v) :: toJsonMembers es

end

def Settings.render (s : Settings) : FileFormat → String
  | .json => (toJson s.toDoc).pretty 0
  | .yaml => Yaml.render s.toDoc
  | .toml => Toml.render s.toDoc

end KeystrokeTally.Config
