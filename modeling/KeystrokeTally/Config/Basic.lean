import KeystrokeTally.Classify.Group
import KeystrokeTally.Log.Level
import KeystrokeTally.Config.Schema
import KeystrokeTally.Tally.Store

namespace KeystrokeTally.Config

/-- An application group as a configuration file writes it; patterns as written. -/
structure GroupSpec where
  id : Int
  name : Option String := none
  windowClasses : List String := []
  terminalProcesses : List String := []
  processes : List String := []
  deriving DecidableEq, Repr, Inhabited

def GroupSpec.toGroup (g : GroupSpec) : Classify.Group :=
  Classify.Group.make g.id g.name g.windowClasses g.terminalProcesses g.processes

/-- A configuration; `none` is an absent setting. -/
structure Settings where
  dbPath : Option String := none
  clusterSize : Option Int := none
  commitIntervalSecs : Option Nat := none
  processSyncIntervalSecs : Option Nat := none
  procRoot : Option String := none
  logLevel : Option String := none
  replayFile : Option String := none
  countUnmatched : Option Bool := none
  unmatchedGroupId : Option Int := none
  groups : List GroupSpec := []
  deriving Repr, Inhabited

def defaultIntervalSecs : Nat := 5

def defaultProcRoot : String := "/proc"

def defaultUnmatchedGroup : Int := -1

def defaultDbPath (home : Option String) : String :=
  match home with
  | some h => if h.isEmpty then "keytally.db" else h ++ "/.keytally/keytally.db"
  | none => "keytally.db"

def Settings.defaults (home : Option String) : Settings where
  dbPath := some (defaultDbPath home)
  clusterSize := some Tally.defaultClusterSize
  commitIntervalSecs := some defaultIntervalSecs
  processSyncIntervalSecs := some defaultIntervalSecs
  procRoot := some defaultProcRoot
  logLevel := some "info"
  replayFile := none
  countUnmatched := some false
  unmatchedGroupId := some defaultUnmatchedGroup
  groups := []

namespace Settings

def effectiveDbPath (s : Settings) (home : Option String) : String := s.dbPath.getD (defaultDbPath home)

def effectiveClusterSize (s : Settings) : Int := s.clusterSize.getD Tally.defaultClusterSize

def commitInterval (s : Settings) : Nat := s.commitIntervalSecs.getD defaultIntervalSecs

def syncInterval (s : Settings) : Nat := s.processSyncIntervalSecs.getD defaultIntervalSecs

def effectiveProcRoot (s : Settings) : String := s.procRoot.getD defaultProcRoot

def unmatchedGroup (s : Settings) : Option Int :=
  if s.countUnmatched.getD false then some (s.unmatchedGroupId.getD defaultUnmatchedGroup) else none

def level (s : Settings) : Option Log.Level := s.logLevel.bind Log.Level.parse

def rules (s : Settings) : Classify.Rules := ⟨s.groups.map GroupSpec.toGroup⟩

end Settings

def Value.texts (v : Value) : List String := v.elements.filterMap Value.text?

def GroupSpec.ofValue (v : Value) : GroupSpec where
  id := ((v.field? "id").bind Value.int?).getD 0
  name := ((v.field? "name").bind Value.present?).bind Value.text?
  windowClasses := ((v.field? "window_classes").map Value.texts).getD []
  terminalProcesses := ((v.field? "terminal_processes").map Value.texts).getD []
  processes := ((v.field? "processes").map Value.texts).getD []

def Settings.ofValue (v : Value) : Settings :=
  let present (name : String) : Option Value := (v.field? name).bind Value.present?
  { dbPath := (present "db_path").bind Value.text?
    clusterSize := (present "cluster_size").bind Value.int?
    commitIntervalSecs := ((present "commit_interval_secs").bind Value.int?).map Int.toNat
    processSyncIntervalSecs := ((present "process_sync_interval_secs").bind Value.int?).map Int.toNat
    procRoot := (present "proc_root").bind Value.text?
    logLevel := (present "log_level").bind Value.text?
    replayFile := (present "replay_file").bind Value.text?
    countUnmatched := (present "count_unmatched").bind Value.bool?
    unmatchedGroupId := (present "unmatched_group_id").bind Value.int?
    groups := ((v.field? "groups").map fun g => g.elements.map GroupSpec.ofValue).getD [] }

end KeystrokeTally.Config
