import KeystrokeTally.Cli.Parse
import KeystrokeTally.Config.Load
import KeystrokeTally.Log.Level

namespace KeystrokeTally

/-- How the stats subcommand prints counters. -/
inductive StatsFormat where
  | table
  | json
  deriving DecidableEq, Repr, Inhabited

/-- A subcommand with its parameters. -/
inductive Subcommand where
  | check (proc db all : Bool)
  | config (output : Option String) (format : Config.FileFormat) (commented : Bool)
  | groups (verbose : Bool)
  | tree (pid : Option Nat)
  | classify (className : String) (pid : Option Int)
  | stats (fromTs toTs : Option Int) (totals : Bool) (format : StatsFormat)
  | generateReplay (output : String) (keypresses : Nat) (spanSecs : Int) (start : Option Int)
      (seed : Option Nat)
  deriving Repr, Inhabited

/-- The parsed command line. -/
structure Args where
  command : Option Subcommand := none
  logLevel : Option Log.Level := none
  overrides : Config.Overrides := {}
  showConfig : Bool := false
  configFormat : Config.FileFormat := .yaml
  checkConfig : Bool := false
  deriving Inhabited

namespace Cli

def flagParam (name help : String) : Param :=
  { name, long := name.map (fun c => if c == '_' then '-' else c), help, action := .flag }

def optionParam (name help : String) (type : ValueType) (default : Option String)
    (short : Option Char) (hyphenValues : Bool) : Param :=
  { name, long := name.map (fun c => if c == '_' then '-' else c), short, help,
    action := .option type default hyphenValues }

def plainOption (name help : String) (type : ValueType) : Param :=
  optionParam name help type none none false

def anyWord : ValueType := .signed Word.min Word.max

def formatNames : List String := ["yaml", "json", "toml"]

def program : Program where
  name := "keytally"
  version := some "0.1.0"
  root := {
    name := "keytally"
    about := "Keystroke telemetry collector that counts input per application group"
    longAbout := some ("Keystroke telemetry collector that counts input per application group.\n\n" ++
      "Key presses are attributed to configured application groups by looking at the focused " ++
      "window's terminal sub-processes, its owning process and its window class, then " ++
      "accumulated into fixed time buckets in a SQLite database.")
    params := [
      plainOption "log_level" "Log level (overrides log_level from the config file)"
        (.choice (Log.Level.all.map Log.Level.name)),
      optionParam "config" "Config file (YAML/JSON/TOML)" .path none (some 'c') false,
      flagParam "no_config" "Disable all config file loading",
      flagParam "show_config" "Print effective merged config and exit",
      optionParam "config_format" "Output format for --show-config" (.choice formatNames) (some "yaml") none false,
      flagParam "check_config" "Validate config and exit (return code 1 on error)",
      plainOption "db_path" "SQLite database file" .path,
      plainOption "cluster_size" "Bucket width in seconds" anyWord,
      plainOption "commit_interval" "Seconds between two commits of buffered counts" .unsigned,
      plainOption "sync_interval" "Seconds between two process table re-syncs" .unsigned,
      plainOption "replay_file" "Read events from a JSON-lines replay file instead of a live session" .path,
      plainOption "proc_root" "Root of the procfs tree to enumerate processes from" .path] }
  commands := [
    { name := "check", about := "Validate configuration, process table access and database"
      params := [flagParam "proc" "Check the process table", flagParam "db" "Check the database",
        flagParam "all" "Check everything"] },
    { name := "config", about := "Generate configuration files"
      params := [optionParam "output" "Output file path" .path none (some 'o') false,
        optionParam "format" "Output format" (.choice formatNames) (some "yaml") none false,
        flagParam "commented" "Include comments and examples"] },
    { name := "groups", about := "List configured application groups"
      params := [flagParam "verbose" "Show matching rules"] },
    { name := "tree", about := "Print the process ancestry tree"
      params := [plainOption "pid" "Only print the subtree below this pid" (.signed 0 Word.maxPid)] },
    { name := "classify", about := "Classify a synthetic window against the live process table"
      params := [optionParam "class" "Window class name" .text (some "") none false,
        optionParam "pid" "Pid owning the window (0 or negative means unknown)" anyWord none none true] },
    { name := "stats", about := "Print persisted keystroke counters"
      params := [plainOption "from" "Only buckets starting at or after this Unix timestamp" anyWord,
        plainOption "to" "Only buckets starting at or before this Unix timestamp" anyWord,
        flagParam "totals" "Print one total per group instead of per bucket",
        optionParam "format" "Output format" (.choice ["table", "json"]) (some "table") none false] },
    { name := "generate-replay", about := "Generate a synthetic replay file"
      params := [optionParam "output" "Output file path" .path (some "replay.jsonl") (some 'o') false,
        optionParam "keypresses" "Number of key presses to generate" .unsigned (some "1000") (some 'n') false,
        optionParam "span_secs" "Time span covered by the key presses, in seconds" anyWord (some "3600") none false,
        plainOption "start" "Unix timestamp of the first key press (defaults to now minus span)" anyWord,
        plainOption "seed" "Seed for reproducible output" .unsigned] }]

end Cli

def formatOfName : String → Config.FileFormat
  | "json" => .json
  | "toml" => .toml
  | _ => .yaml

def formatTitle : Config.FileFormat → String
  | .yaml => "Yaml"
  | .json => "Json"
  | .toml => "Toml"

namespace Subcommand

def intOr (g : Cli.Given) (name : String) (default : Int) : Int :=
  (g.int? name).getD default

def ofGiven (name : String) (g : Cli.Given) : Option Subcommand :=
  match name with
  | "check" => some (.check (g.flag "proc") (g.flag "db") (g.flag "all"))
  | "config" => some (.config (g.text? "output") (formatOfName ((g.text? "format").getD "yaml")) (g.flag "commented"))
  | "groups" => some (.groups (g.flag "verbose"))
  | "tree" => some (.tree ((g.int? "pid").map Int.toNat))
  | "classify" => some (.classify ((g.text? "class").getD "") (g.int? "pid"))
  | "stats" =>
    some (.stats (g.int? "from") (g.int? "to") (g.flag "totals")
      (if g.text? "format" == some "json" then .json else .table))
  | "generate-replay" =>
    some (.generateReplay ((g.text? "output").getD "replay.jsonl") (intOr g "keypresses" 1000).toNat
      (intOr g "span_secs" 3600) (g.int? "start") ((g.int? "seed").map Int.toNat))
  | _ => none

def showOption {α : Type} (f : α → String) : Option α → String
  | some a => "Some(" ++ f a ++ ")"
  | none => "None"

def showBool (b : Bool) : String := if b then "true" else "false"

def dump : Subcommand → String
  | .check proc db all =>
    "Check \x7b proc: " ++ showBool proc ++ ", db: " ++ showBool db ++ ", all: " ++ showBool all ++ " \x7d"
  | .config output format commented =>
    "Config \x7b output: " ++ showOption Text.quoteForDiagnostic output ++ ", format: " ++
      formatTitle format ++ ", commented: " ++ showBool commented ++ " \x7d"
  | .groups verbose => "Groups \x7b verbose: " ++ showBool verbose ++ " \x7d"
  | .tree pid => "Tree \x7b pid: " ++ showOption toString pid ++ " \x7d"
  | .classify className pid =>
    "Classify \x7b class: " ++ Text.quoteForDiagnostic className ++ ", pid: " ++ showOption toString pid ++ " \x7d"
  | .stats fromTs toTs totals format =>
    "Stats \x7b from: " ++ showOption toString fromTs ++ ", to: " ++ showOption toString toTs ++
      ", totals: " ++ showBool totals ++ ", format: " ++ (match format with | .table => "Table" | .json => "Json") ++ " \x7d"
  | .generateReplay output keypresses spanSecs start seed =>
    "GenerateReplay \x7b output: " ++ Text.quoteForDiagnostic output ++ ", keypresses: " ++ toString keypresses ++
      ", span_secs: " ++ toString spanSecs ++ ", start: " ++ showOption toString start ++ ", seed: " ++
      showOption toString seed ++ " \x7d"

end Subcommand

namespace Args

def ofParsed (p : Cli.Parsed) : Args :=
  let g := p.root
  { command := p.command.bind fun (name, sg) => Subcommand.ofGiven name sg
    logLevel := (g.text? "log_level").bind Log.Level.parse
    overrides := {
      noConfig := g.flag "no_config"
      config := g.text? "config"
      dbPath := g.text? "db_path"
      clusterSize := g.int? "cluster_size"
      commitInterval := (g.int? "commit_interval").map Int.toNat
      syncInterval := (g.int? "sync_interval").map Int.toNat
      replayFile := g.text? "replay_file"
      procRoot := g.text? "proc_root" }
    showConfig := g.flag "show_config"
    configFormat := formatOfName ((g.text? "config_format").getD "yaml")
    checkConfig := g.flag "check_config" }

def parse (argv : List String) : Except Cli.Stop Args :=
  (Cli.parse Cli.program argv).map ofParsed

end Args

end KeystrokeTally
