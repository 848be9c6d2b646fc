import KeystrokeTally.Cli.Help
import KeystrokeTally.Cli.Error
import KeystrokeTally.Text.Digits
import KeystrokeTally.Text.Jaro
import KeystrokeTally.Arith.Checked

namespace KeystrokeTally.Cli

/-- A value given to a parameter. -/
inductive Value where
  | flag
  | text (s : String)
  | int (i : Int)
  | choice (name : String)
  deriving DecidableEq, Repr

/-- What was given at one level. -/
structure Given where
  values : List (String × Value) := []
  seen : List String := []
  deriving Repr

/-- Why reading stopped: help or the version was asked for, or the line was refused. -/
inductive Stop where
  | help (text : String)
  | version (text : String)
  | refused (e : UsageError)
  deriving Repr

namespace Stop

def kind : Stop → String
  | .help _ => "DisplayHelp"
  | .version _ => "DisplayVersion"
  | .refused e => e.kind

def exitCode : Stop → Nat
  | .refused e => e.exitCode
  | _ => 0

def stdout : Stop → String
  | .help t | .version t => t
  | .refused _ => ""

def stderr : Stop → String
  | .refused e => e.render
  | _ => ""

end Stop

def ValueType.read (t : ValueType) (arg raw : String) : Except UsageError Value :=
  match t with
  | .text => .ok (.text raw)
  | .path => if raw.isEmpty then .error (.invalidValue "" arg [] []) else .ok (.text raw)
  | .signed lo hi =>
    match Text.parseDecimal raw Word.min Word.max with
    | .error e => .error (.badNumber raw arg e.message)
    | .ok v =>
      if lo ≤ v && v ≤ hi then .ok (.int v)
      else .error (.badNumber (toString v) arg (toString v ++ " is not in " ++ toString lo ++ "..=" ++ toString hi))
  | .unsigned =>
    match Text.parseDecimal raw 0 Word.maxUnsigned with
    | .error e => .error (.badNumber raw arg e.message)
    | .ok v => .ok (.int v)
  | .choice names =>
    if names.contains raw then .ok (.choice raw)
    else .error (.invalidValue raw arg names (similarTip "value" (Text.mostSimilar raw names).toList))

/-- Settles one parameter with its value, if any: a missing value is refused first, then a second
use, then the value is read (the parameter counting as met even when its value is refused). Help
and version requests stop here; `longForm` says whether help was asked for by `--help`. -/
def settle (l : Level) (g : Given) (p : Param) (raw : Option String) (longForm : Bool) :
    Given × Option Stop :=
  match p.action, raw with
  | .help, _ => (g, some (.help (l.help longForm)))
  | .version, _ => (g, some (.version l.versionText))
  | .option .., none => (g, some (.refused (.invalidValue "" p.display p.choices [])))
  | .flag, _ =>
    if g.seen.contains p.name then (g, some (.refused (.repeated p.display l.usage)))
    else ({ values := g.values ++ [(p.name, .flag)], seen := g.seen ++ [p.name] }, none)
  | .option t _ _, some v =>
    if g.seen.contains p.name then (g, some (.refused (.repeated p.display l.usage)))
    else
      let g' := { g with seen := g.seen ++ [p.name] }
      match t.read p.display v with
      | .ok value => ({ g' with values := g.values ++ [(p.name, value)] }, none)
      | .error e => (g', some (.refused e))

/-- The state of reading one level. -/
structure Reading where
  given : Given := {}
  pending : Option (Param × Option String) := none
  escaped : Bool := false

namespace Reading

def settlePending (l : Level) (r : Reading) : Given × Option Stop :=
  match r.pending with
  | none => (r.given, none)
  | some (p, raw) => settle l r.given p raw true

def awaitsHyphenValue (r : Reading) : Bool :=
  match r.pending with
  | some (p, none) => p.hyphenValues
  | _ => false

def awaiting? (r : Reading) : Option Param :=
  match r.pending with
  | some (p, none) => some p
  | _ => none

end Reading

def firstLeast {α : Type} : List (Nat × α) → Option (Nat × α)
  | [] => none
  | x :: xs =>
    match firstLeast xs with
    | some y => if y.1 < x.1 then some y else some x
    | none => some x

/-- The refusal of an unknown long name: a similar long name of this level, else a similar long
name of a subcommand named later on the line, is suggested. -/
def unknownLong (prog : Program) (l : Level) (g : Given) (name : String) (rest : List String) :
    UsageError :=
  match Text.mostSimilar name (l.params.map (·.long)) with
  | some cand =>
    let used := g.seen ++ ((l.findLong cand).map (·.name)).toList
    .unknownArgument ("--" ++ name) (similarTip "argument" ["--" ++ cand]) (l.usageWith used)
  | none =>
    let found := (l.subcommands.filter (·.name != helpCommand.name)).filterMap fun c =>
      match Text.mostSimilar name ((Level.sub prog c).params.map (·.long)), rest.idxOf? c.name with
      | some cand, some pos => some (pos, c.name, cand)
      | _, _ => none
    match firstLeast found with
    | some (_, sub, cand) =>
      .unknownArgument ("--" ++ name) ["'" ++ sub ++ " --" ++ cand ++ "' exists"] (l.usageWith g.seen)
    | none => .unknownArgument ("--" ++ name) [] (l.usageWith g.seen)

def strayWord (l : Level) (word : String) (escaped : Bool) : UsageError :=
  if escaped && (l.findCommand word).isSome then
    .unknownArgument "--" ["subcommand '" ++ word ++ "' exists; to use it, remove the '--' before it"] l.usage
  else
    let cands := Text.similarNames word (l.subcommands.map (·.name))
    if !cands.isEmpty then .unknownSubcommand word (similarTip "subcommand" cands) l.usage
    else if !l.subcommands.isEmpty then .unknownSubcommand word [] l.usage
    else .unknownArgument word [] l.usage

def helpFor (prog : Program) (l : Level) : List String → Stop
  | [] => .help (l.help true)
  | n :: more =>
    match l.findCommand n with
    | none => .refused (.unknownSubcommand n [] l.usage)
    | some c =>
      let sl := Level.sub prog c
      match more with
      | [] => .help (sl.help true)
      | m :: _ => .refused (.unknownSubcommand m [] sl.usage)

/-- Reads the letters of a `-abc` word after the pending option is settled; a letter taking a
value takes the rest of the word, or awaits the next word. -/
def readShorts (l : Level) (g : Given) : List Char → Except Stop Reading
  | [] => .ok { given := g }
  | c :: cs =>
    match l.findShort c with
    | none => .error (.refused (.unknownArgument ("-" ++ String.singleton c) [] l.usage))
    | some p =>
      if p.takesValue then
        match cs with
        | [] => .ok { given := g, pending := some (p, none) }
        | '=' :: v => match settle l g p (some (String.ofList v)) false with
          | (_, some s) => .error s
          | (g, none) => .ok { given := g }
        | v => match settle l g p (some (String.ofList v)) false with
          | (_, some s) => .error s
          | (g, none) => .ok { given := g }
      else
        match settle l g p none false with
        | (_, some s) => .error s
        | (g, none) => readShorts l g cs

def afterPending (l : Level) (r : Reading) (k : Given → Except Stop Reading) : Except Stop Reading :=
  match r.settlePending l with
  | (_, some s) => .error s
  | (g, none) => k g

def readLong (prog : Program) (l : Level) (r : Reading) (body : String) (rest : List String) :
    Except Stop Reading :=
  let (name, attached) := match body.splitOn "=" with
    | [] => (body, none)
    | n :: vs => (n, if vs.isEmpty then none else some ("=".intercalate vs))
  match l.findLong name with
  | none => .error (.refused (unknownLong prog l (r.settlePending l).1 name rest))
  | some p =>
    if p.takesValue then
      afterPending l r fun g =>
        match attached with
        | some v => match settle l g p (some v) true with
          | (_, some s) => .error s
          | (g, none) => .ok { given := g, escaped := r.escaped }
        | none => .ok { given := g, pending := some (p, none), escaped := r.escaped }
    else
      match attached with
      | some v => .error (.refused (.unexpectedValue v p.display (l.usageWith (r.given.seen ++ [p.name]))))
      | none =>
        afterPending l r fun g =>
          match settle l g p none true with
          | (_, some s) => .error s
          | (g, none) => .ok { given := g, escaped := r.escaped }

/-- Reads the words of one level; the result is what was given and, when a subcommand follows,
its name and the words after it. -/
def readLevel (prog : Program) (l : Level) (r : Reading) :
    List String → Except Stop (Given × Option (String × List String))
  | [] =>
    match r.settlePending l with
    | (_, some s) => .error s
    | (g, none) => .ok (g, none)
  | w :: rest =>
    if r.escaped then .error (.refused (strayWord l w true))
    else if (l.findCommand w).isSome then
      if w == helpCommand.name then .error (helpFor prog l rest)
      else
        match r.settlePending l with
        | (_, some s) => .error s
        | (g, none) => .ok (g, some (w, rest))
    else if w == "--" && !r.awaitsHyphenValue then
      readLevel prog l { r with escaped := true } rest
    else if w.startsWith "--" && !r.awaitsHyphenValue then
      match readLong prog l r (w.drop 2).toString rest with
      | .error s => .error s
      | .ok r' => readLevel prog l r' rest
    else if w.startsWith "-" && w != "-" && !r.awaitsHyphenValue then
      let letters := w.toList.drop 1
      let next : Except Stop Reading :=
        match letters with
        | c :: _ =>
          if (l.findShort c).isSome then afterPending l r fun g => readShorts l g letters
          else .error (.refused (.unknownArgument ("-" ++ String.singleton c) [] l.usage))
        | [] => .ok r
      match next with
      | .error s => .error s
      | .ok r' => readLevel prog l { r' with escaped := r.escaped } rest
    else
      match r.awaiting? with
      | some p => readLevel prog l { r with pending := some (p, some w) } rest
      | none => .error (.refused (strayWord l w false))

/-- What a command line gives: the top level's values and, when a subcommand was named, its name
and values. -/
structure Parsed where
  root : Given
  command : Option (String × Given)

def parse (prog : Program) (args : List String) : Except Stop Parsed := do
  let (g, sub) ← readLevel prog (Level.root prog) {} args
  match sub with
  | none => pure ⟨g, none⟩
  | some (name, rest) =>
    match prog.commands.find? (·.name == name) with
    | none => pure ⟨g, none⟩
    | some c =>
      let (sg, _) ← readLevel prog (Level.sub prog c) {} rest
      pure ⟨g, some (name, sg)⟩

namespace Given

def get? (g : Given) (name : String) : Option Value :=
  g.values.lookup name

def flag (g : Given) (name : String) : Bool :=
  (g.get? name).isSome

def text? (g : Given) (name : String) : Option String :=
  match g.get? name with
  | some (.text s) => some s
  | some (.choice s) => some s
  | _ => none

def int? (g : Given) (name : String) : Option Int :=
  match g.get? name with
  | some (.int i) => some i
  | _ => none

end Given

end KeystrokeTally.Cli
