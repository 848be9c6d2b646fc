import KeystrokeTally.Command.Outcome
import KeystrokeTally.Config.Render

namespace KeystrokeTally.Command

open HostM

def exampleSettings (home : Option String) : Config.Settings :=
  { Config.Settings.defaults home with
    groups := [
      { id := 1, name := some "editors", terminalProcesses := ["vim", "nvim", "emacs"],
        processes := ["gvim", "code"] },
      { id := 2, name := some "browsers", windowClasses := ["Firefox", "Chromium"] }] }

def configHeader : String :=
  "# keytally Configuration\n" ++
  "# ======================\n" ++
  "#\n" ++
  "# Storage\n" ++
  "# -------\n" ++
  "# db_path: ~/.keytally/keytally.db   # SQLite database file\n" ++
  "# cluster_size: 900                  # Bucket width in seconds\n" ++
  "# commit_interval_secs: 5            # Seconds between two commits\n" ++
  "#\n" ++
  "# Process Tracking\n" ++
  "# ----------------\n" ++
  "# process_sync_interval_secs: 5      # Seconds between two /proc re-syncs\n" ++
  "# proc_root: /proc                   # procfs mount point\n" ++
  "#\n" ++
  "# Event Source\n" ++
  "# ------------\n" ++
  "# replay_file: null                  # JSON-lines replay file (null = stdin)\n" ++
  "#\n" ++
  "# Unmatched Key Presses\n" ++
  "# ---------------------\n" ++
  "# count_unmatched: false             # Record key presses no group matched\n" ++
  "# unmatched_group_id: -1             # Group id they are recorded under\n" ++
  "#\n" ++
  "# Logging\n" ++
  "# -------\n" ++
  "# log_level: \"info\"                  # off, error, warn, info, debug, trace\n" ++
  "#\n" ++
  "# Groups\n" ++
  "# ------\n" ++
  "# Matching runs in three tiers, first hit wins:\n" ++
  "#   1. terminal_processes: for terminal windows (class ending in term, rxvt,\n" ++
  "#      konsole or xterminal), any process below the window owner\n" ++
  "#   2. processes: the process owning the window\n" ++
  "#   3. window_classes: the window class name\n" ++
  "# Patterns are exact, case-insensitive names. Earlier groups win ties.\n"

def defaultConfigFile : Config.FileFormat → String
  | .yaml => "keytally.yaml"
  | .json => "keytally.json"
  | .toml => "keytally.toml"

def writeExample (output : Option String) (format : Config.FileFormat) (commented : Bool) : HostM Outcome := do
  let content := (exampleSettings (← home)).render format
  let content := if commented && format == .yaml then configHeader ++ "\n" ++ content else content
  let path := output.getD (defaultConfigFile format)
  if path == "-" then
    print content
    return .done
  else
    match (← disk).writeText path content with
    | .error e => return .failed (.io e)
    | .ok d =>
      setDisk d
      println ("✅ Configuration written to: " ++ path)
      return .done

end KeystrokeTally.Command
