import KeystrokeTally.Host
import KeystrokeTally.Proc.Source
import KeystrokeTally.Tally.Store
import KeystrokeTally.Config.Validate

namespace KeystrokeTally.Command

/-- Why a subcommand failed. -/
inductive Failure where
  | source (e : Proc.SourceError)
  | store (e : Tally.StoreError)
  | io (e : Disk.IoError)
  | message (text : String)

namespace Failure

def display : Failure → String
  | .source e => e.message
  | .store e => e.message
  | .io e => e.message
  | .message t => t

def dump : Failure → String
  | .source e => e.dump
  | .store e => e.dump
  | .io e => e.dump
  | .message t => Text.quoteForDiagnostic t

end Failure

/-- How a subcommand ended. -/
inductive Outcome where
  | done
  | exit (status : Nat)
  | failed (f : Failure)
  | panicked (f : Fault) (place : String)

end KeystrokeTally.Command

namespace KeystrokeTally.HostM

def validateSettings (s : Config.Settings) : HostM (Except Config.ConfigError Unit) := do
  for g in s.patternlessGroups do
    log .warn "keytally::config" ("Group " ++ toString g ++ " has no patterns and will never match")
  return s.validate

end KeystrokeTally.HostM
