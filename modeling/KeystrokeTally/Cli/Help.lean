import KeystrokeTally.Cli.Spec
import KeystrokeTally.Text.Blank
import KeystrokeTally.Text.Escaped

namespace KeystrokeTally.Cli

namespace Level

def needsOptionsTag (l : Level) : Bool :=
  l.params.any fun p => p.long != "help" && p.long != "version"

def usage (l : Level) : String :=
  l.bin ++ (if l.needsOptionsTag then " [OPTIONS]" else "") ++
    (if l.subcommands.isEmpty then "" else " [COMMAND]")

def dedup (xs : List String) : List String :=
  xs.foldl (fun acc x => if acc.contains x then acc else acc ++ [x]) []

def usageWith (l : Level) (used : List String) : String :=
  if used.isEmpty then l.usage
  else
    let shown := dedup (used.filterMap fun n => (l.params.find? (·.name == n)).map Param.display)
    l.bin ++ String.join (shown.map (" " ++ ·))

end Level

def termWidth : Nat := 100

def shownDefault (d : String) : String :=
  if d.toList.any Char.isWhitespace then Text.quoteForDiagnostic d else d

/-- The default and possible values of a parameter, joined by a line break for `--help` and by
a space otherwise. -/
def specVals (p : Param) (long : Bool) : String :=
  let parts :=
    (match p.default? with
      | some d => ["[default: " ++ shownDefault d ++ "]"]
      | none => []) ++
    (if p.choices.isEmpty then [] else ["[possible values: " ++ ", ".intercalate p.choices ++ "]"])
  (if long then "\n" else " ").intercalate parts

def paramHelp (p : Param) (long : Bool) : String :=
  let about := if long then p.longHelp.getD p.help else p.help
  let spec := specVals p long
  if spec.isEmpty then about
  else if about.isEmpty then spec
  else about ++ (if long then "\n\n" else " ") ++ spec

def indentLines (s : String) (n : Nat) : String :=
  s.replace "\n" ("\n" ++ Text.spaces n)

def paramHead (p : Param) : String :=
  "  " ++ (match p.short with
    | some c => "-" ++ String.singleton c ++ ", "
    | none => "    ") ++ p.display

def crowded (p : Param) (longest : Nat) : Bool :=
  let taken := longest + 12
  let width := p.help.length + (specVals p false).length
  taken ≤ termWidth && 10 * taken > 4 * termWidth && width + taken > termWidth

def paramLines (ps : List Param) (long : Bool) : String :=
  let longest := ps.foldl (fun m p => Nat.max m p.display.length) 2
  let nextLine := long || ps.any (crowded · longest)
  let line (p : Param) : String :=
    if nextLine then paramHead p ++ "\n" ++ Text.spaces 10 ++ indentLines (paramHelp p long) 10
    else
      paramHead p ++ Text.spaces (longest + 2 - p.display.length) ++
        indentLines (paramHelp p long) (longest + 8)
  (if nextLine && long then "\n\n" else "\n").intercalate (ps.map line)

def commandLines (cs : List Command) : String :=
  let longest := cs.foldl (fun m c => Nat.max m c.name.length) 2
  "\n".intercalate (cs.map fun c => "  " ++ c.name ++ Text.spaces (longest + 2 - c.name.length) ++ c.about)

def trimEnd (s : String) : String :=
  String.ofList (s.toList.reverse.dropWhile Char.isWhitespace).reverse

/-- The help of a level; `long` asks for the help of `--help`, given only when the command has a
long description. -/
def Level.help (l : Level) (long : Bool) : String :=
  let long := long && Level.hasLongHelp l.command
  let about := if long then l.command.longAbout.getD l.command.about else l.command.about
  let sections :=
    (if l.subcommands.isEmpty then [] else ["Commands:\n" ++ commandLines l.subcommands]) ++
    (if l.params.isEmpty then [] else ["Options:\n" ++ paramLines l.params long])
  trimEnd (about ++ "\n\nUsage: " ++ l.usage ++ "\n\n" ++ "\n\n".intercalate sections) ++ "\n"

def Level.versionText (l : Level) : String :=
  l.displayName ++ " " ++ l.version.getD "" ++ "\n"

end KeystrokeTally.Cli
