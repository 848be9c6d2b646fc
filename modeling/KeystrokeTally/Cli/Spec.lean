namespace KeystrokeTally.Cli

/-- What an option's value must be. -/
inductive ValueType where
  | text
  | path
  | signed (lo hi : Int)
  | unsigned
  | choice (names : List String)
  deriving DecidableEq, Repr

/-- What a parameter does when given. -/
inductive Action where
  | flag
  | option (type : ValueType) (default : Option String) (hyphenValues : Bool)
  | help
  | version
  deriving DecidableEq, Repr

/-- A parameter of a command. -/
structure Param where
  name : String
  long : String
  short : Option Char := none
  help : String
  longHelp : Option String := none
  action : Action
  deriving Repr

namespace Param

def takesValue (p : Param) : Bool :=
  match p.action with
  | .option .. => true
  | _ => false

def hyphenValues (p : Param) : Bool :=
  match p.action with
  | .option _ _ true => true
  | _ => false

def valueName (p : Param) : String :=
  p.name.map Char.toUpper

def display (p : Param) : String :=
  "--" ++ p.long ++ (if p.takesValue then " <" ++ p.valueName ++ ">" else "")

def choices (p : Param) : List String :=
  match p.action with
  | .option (.choice names) _ _ => names
  | _ => []

def default? (p : Param) : Option String :=
  match p.action with
  | .option _ d _ => d
  | _ => none

end Param

/-- A command: its name, its help lines and its parameters, built-ins excluded. -/
structure Command where
  name : String
  about : String
  longAbout : Option String := none
  params : List Param
  deriving Repr

/-- A program: its name, version, top-level command and subcommands. -/
structure Program where
  name : String
  version : Option String
  root : Command
  commands : List Command
  deriving Repr

def helpCommand : Command where
  name := "help"
  about := "Print this message or the help of the given subcommand(s)"
  params := []

/-- The built-in help parameter, whose help mentions `--help` when the command has more to say
there. -/
def helpParam (hasLong : Bool) : Param :=
  if hasLong then
    { name := "help", long := "help", short := some 'h', help := "Print help (see more with '--help')",
      longHelp := some "Print help (see a summary with '-h')", action := .help }
  else
    { name := "help", long := "help", short := some 'h', help := "Print help", action := .help }

def versionParam : Param :=
  { name := "version", long := "version", short := some 'V', help := "Print version", action := .version }

/-- One level of parsing: a command with its built-ins, the words that invoke it, the name its
version is printed under, and the subcommands that may follow it. -/
structure Level where
  bin : String
  displayName : String
  command : Command
  params : List Param
  subcommands : List Command
  version : Option String

namespace Level

def hasLongHelp (c : Command) : Bool := c.longAbout.isSome

def paramsOf (c : Command) (version : Option String) : List Param :=
  c.params ++ [helpParam (hasLongHelp c)] ++ (if version.isSome then [versionParam] else [])

def root (p : Program) : Level where
  bin := p.name
  displayName := p.name
  command := p.root
  params := paramsOf p.root p.version
  subcommands := if p.commands.isEmpty then [] else p.commands ++ [helpCommand]
  version := p.version

def sub (p : Program) (c : Command) : Level where
  bin := p.name ++ " " ++ c.name
  displayName := p.name ++ "-" ++ c.name
  command := c
  params := paramsOf c p.version
  subcommands := []
  version := p.version

def findLong (l : Level) (name : String) : Option Param :=
  l.params.find? (·.long == name)

def findShort (l : Level) (c : Char) : Option Param :=
  l.params.find? (·.short == some c)

def findCommand (l : Level) (name : String) : Option Command :=
  l.subcommands.find? (·.name == name)

end Level

end KeystrokeTally.Cli
