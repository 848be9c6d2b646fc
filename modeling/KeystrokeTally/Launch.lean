import KeystrokeTally.Cli.Args
import KeystrokeTally.Command.Check
import KeystrokeTally.Command.Config
import KeystrokeTally.Command.Groups
import KeystrokeTally.Command.Tree
import KeystrokeTally.Command.Classify
import KeystrokeTally.Command.Stats
import KeystrokeTally.Command.Generate
import KeystrokeTally.Collector
import KeystrokeTally.Requirements
import KeystrokeTally.Config.Render

namespace KeystrokeTally.Subcommand

def run (c : Subcommand) (s : Config.Settings) : HostM Command.Outcome :=
  match c with
  | .check proc db all => Command.check proc db all s
  | .config output format commented => Command.writeExample output format commented
  | .groups verbose => Command.groups verbose s.rules
  | .tree pid => Command.tree pid s.effectiveProcRoot
  | .classify className pid => Command.classify className pid s
  | .stats fromTs toTs totals format =>
    Command.stats fromTs toTs totals (match format with | .table => .table | .json => .json) s
  | .generateReplay output keypresses spanSecs start seed =>
    Command.generateReplay output keypresses spanSecs start seed s

end KeystrokeTally.Subcommand

namespace KeystrokeTally.Launch

open HostM

def target : String := "keytally"

def loadValidated (a : Args) : HostM (Except String Config.Settings) := do
  match Config.resolve (← disk) (← home) a.overrides with
  | .error e => return .error e.message
  | .ok (s, source) =>
    match ← validateSettings s with
    | .error e => return .error e.message
    | .ok () =>
      if let some path := source then
        log .debug target ("Configuration loaded from " ++ path)
      return .ok s

def setupLogging (l : Log.Level) : HostM Unit := do
  setLevel l
  log .info target ("Logging initialized with level: " ++ l.title)

def finish : Command.Outcome → HostM Nat
  | .done => pure 0
  | .exit n => pure n
  | .failed f => do
    eprintln ("Error: " ++ f.dump)
    pure 1
  | .panicked f place => do
    eprintln ("thread 'main' panicked at " ++ place ++ ":\n" ++ f.message ++
      "\nnote: run with `RUST_BACKTRACE=1` environment variable to display a backtrace")
    pure 101

def collect (s : Config.Settings) (signal : Option Collector.Signal) : HostM Nat := do
  log .info target "Starting keytally"
  match ← Requirements.validate s with
  | .error e =>
    log .error target ("❌ Startup validation failed: " ++ e.message)
    return 1
  | .ok () =>
    match ← Collector.build s with
    | .error e =>
      log .error target ("❌ Failed to start collector: " ++ e.render)
      return 1
    | .ok c =>
      let (reason, _) ← c.run signal
      if reason == .sourceFailed then return 1
      log .info target ("keytally stopped gracefully (" ++ reason.name ++ ")")
      return 0

def run (argv : List String) (signal : Option Collector.Signal) : HostM Nat := do
  match Args.parse argv with
  | .error stop =>
    print stop.stdout
    withConsole fun c => { c with err := c.err ++ stop.stderr }
    return stop.exitCode
  | .ok a =>
    if a.showConfig || a.checkConfig then
      match ← loadValidated a with
      | .error e =>
        eprintln ("❌ Configuration invalid: " ++ e)
        return 1
      | .ok s =>
        if a.checkConfig then println "✅ Configuration is valid"
        else println (s.render a.configFormat)
        return 0
    else
      match a.command with
      | some (.config output format commented) => finish (← Command.writeExample output format commented)
      | some c =>
        match ← loadValidated a with
        | .error e =>
          eprintln ("❌ Configuration invalid: " ++ e)
          return 1
        | .ok s =>
          setupLogging ((a.logLevel.orElse fun _ => s.level).getD .warn)
          finish (← c.run s)
      | none =>
        match ← loadValidated a with
        | .error e =>
          eprintln ("❌ Configuration invalid: " ++ e)
          return 1
        | .ok s =>
          setupLogging ((a.logLevel.orElse fun _ => s.level).getD .info)
          collect s signal

def settingsFor (d : Disk.Tree) (home : Option String) (argv : List String) : Option (Args × Config.Settings) :=
  match Args.parse argv with
  | .error _ => none
  | .ok a =>
    match Config.resolve d home a.overrides with
    | .ok (s, _) => some (a, s)
    | .error _ => none

/-- The files a run on a command line may read as text, as far as the files already known tell:
the configuration files it looks for, and the replay file the configuration names. -/
def inputFiles (d : Disk.Tree) (home : Option String) (argv : List String) : List String :=
  match Args.parse argv with
  | .error _ => []
  | .ok a =>
    let configs := match a.overrides.config with
      | some p => [p]
      | none => Config.defaultPaths home
    configs ++ ((settingsFor d home argv).bind fun (_, s) => s.replayFile).toList

/-- Whether a run on a command line reads events from standard input: the collector without a
replay file. -/
def readsInput (d : Disk.Tree) (home : Option String) (argv : List String) : Bool :=
  match settingsFor d home argv with
  | some (a, s) => a.command.isNone && !a.showConfig && !a.checkConfig && s.replayFile.isNone
  | none => false

end KeystrokeTally.Launch
