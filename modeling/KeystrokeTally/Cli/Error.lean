namespace KeystrokeTally.Cli

/-- A refused command line. Parameters are named as in messages (`--long <VALUE>`). -/
inductive UsageError where
  | unknownArgument (arg : String) (tips : List String) (usage : String)
  | unexpectedValue (value arg : String) (usage : String)
  | invalidValue (value arg : String) (possible : List String) (tips : List String)
  | badNumber (value arg reason : String)
  | repeated (arg : String) (usage : String)
  | unknownSubcommand (name : String) (tips : List String) (usage : String)
  deriving DecidableEq, Repr

namespace UsageError

def kind : UsageError → String
  | .unknownArgument .. => "UnknownArgument"
  | .unexpectedValue .. => "TooManyValues"
  | .invalidValue .. => "InvalidValue"
  | .badNumber .. => "ValueValidation"
  | .repeated .. => "ArgumentConflict"
  | .unknownSubcommand .. => "InvalidSubcommand"

def exitCode (_ : UsageError) : Nat := 2

def headline : UsageError → String
  | .unknownArgument arg _ _ => "unexpected argument '" ++ arg ++ "' found"
  | .unexpectedValue v arg _ => "unexpected value '" ++ v ++ "' for '" ++ arg ++ "' found; no more were expected"
  | .invalidValue v arg possible _ =>
    (if v.isEmpty then "a value is required for '" ++ arg ++ "' but none was supplied"
     else "invalid value '" ++ v ++ "' for '" ++ arg ++ "'") ++
    (if possible.isEmpty then "" else "\n  [possible values: " ++ ", ".intercalate possible ++ "]")
  | .badNumber v arg reason => "invalid value '" ++ v ++ "' for '" ++ arg ++ "': " ++ reason
  | .repeated arg _ => "the argument '" ++ arg ++ "' cannot be used multiple times"
  | .unknownSubcommand name _ _ => "unrecognized subcommand '" ++ name ++ "'"

def tips : UsageError → List String
  | .unknownArgument _ ts _ | .invalidValue _ _ _ ts | .unknownSubcommand _ ts _ => ts
  | _ => []

def usage? : UsageError → Option String
  | .unknownArgument _ _ u | .unexpectedValue _ _ u | .repeated _ u | .unknownSubcommand _ _ u => some u
  | _ => none

def render (e : UsageError) : String :=
  let tipText := match e.tips with
    | [] => ""
    | ts => "\n" ++ String.join (ts.map ("\n  tip: " ++ ·))
  let usageText := match e.usage? with
    | some u => "\n\nUsage: " ++ u
    | none => ""
  "error: " ++ e.headline ++ tipText ++ usageText ++ "\n\nFor more information, try '--help'.\n"

end UsageError

def similarTip (what : String) : List String → List String
  | [] => []
  | [n] => ["a similar " ++ what ++ " exists: '" ++ n ++ "'"]
  | ns => ["some similar " ++ what ++ "s exist: " ++ ", ".intercalate (ns.map fun n => "'" ++ n ++ "'")]

end KeystrokeTally.Cli
