import KeystrokeTally.Decimal.Shortest
import KeystrokeTally.Format.Yaml.Plain
import KeystrokeTally.Format.Yaml.Token

namespace KeystrokeTally.Format

/-- A document to be written. -/
inductive Doc where
  | null
  | bool (b : Bool)
  | int (i : Int)
  | float (x : Float)
  | str (s : String)
  | seq (items : List Doc)
  | map (entries : List (String × Doc))
  deriving Inhabited

end KeystrokeTally.Format

namespace KeystrokeTally.Yaml

open Format (Doc)

/-- Characters written as they are: line feed, ASCII graphic and space, and the printable
ranges above ASCII (byte order mark, `U+FFFE` and `U+FFFF` excluded; the C1 controls, `U+0085`
among them, are not printable). -/
def printable (c : Char) : Bool :=
  let n := c.toNat
  n == 0x0A || (0x20 ≤ n && n ≤ 0x7E) || (0xA0 ≤ n && n ≤ 0xD7FF) ||
    (0xE000 ≤ n && n ≤ 0xFFFD && n != 0xFEFF) || 0x10000 ≤ n

def isBlankOrEnd : Option Char → Bool
  | none => true
  | some c => c == ' ' || c == '\t' || isBreak c

/-- What a text holds, as far as choosing how to write it goes. -/
structure Scan where
  blockIndicators : Bool := false
  flowIndicators : Bool := false
  lineBreaks : Bool := false
  special : Bool := false
  leadingSpace : Bool := false
  leadingBreak : Bool := false
  trailingSpace : Bool := false
  trailingBreak : Bool := false
  breakSpace : Bool := false
  spaceBreak : Bool := false
  previousSpace : Bool := false
  previousBreak : Bool := false

def Scan.step (cs : Array Char) (sc : Scan) (i : Nat) : Scan :=
  match cs[i]? with
  | none => sc
  | some c =>
    let followed := isBlankOrEnd cs[i + 1]?
    let preceded := i == 0 || isBlankOrEnd cs[i - 1]?
    let last := i + 1 == cs.size
    let sc :=
      if i == 0 then
        let sc := if "#,[]\x7b\x7d&*!|>'\"%@`".toList.contains c then
          { sc with flowIndicators := true, blockIndicators := true } else sc
        let sc := if c == '?' || c == ':' then
          { sc with flowIndicators := true, blockIndicators := sc.blockIndicators || followed } else sc
        if c == '-' && followed then { sc with flowIndicators := true, blockIndicators := true } else sc
      else
        let sc := if ",?[]\x7b\x7d".toList.contains c then { sc with flowIndicators := true } else sc
        let sc := if c == ':' then
          { sc with flowIndicators := true, blockIndicators := sc.blockIndicators || followed } else sc
        if c == '#' && preceded then { sc with flowIndicators := true, blockIndicators := true } else sc
    let sc := if printable c then sc else { sc with special := true }
    if c == ' ' then
      { sc with leadingSpace := sc.leadingSpace || i == 0, trailingSpace := sc.trailingSpace || last,
                breakSpace := sc.breakSpace || sc.previousBreak, previousSpace := true, previousBreak := false }
    else if isBreak c then
      { sc with lineBreaks := true, leadingBreak := sc.leadingBreak || i == 0,
                trailingBreak := sc.trailingBreak || last, spaceBreak := sc.spaceBreak || sc.previousSpace,
                previousSpace := false, previousBreak := true }
    else { sc with previousSpace := false, previousBreak := false }

/-- The ways a text may be written in a block. -/
structure Allowed where
  plain : Bool
  singleQuoted : Bool
  literal : Bool

/-- The ways a text may be written: plain unless it starts or ends with a blank or break, holds a
break or an indicator where it would be read as one, or a character that does not print; single
quoted unless a break meets a space or a character does not print; as a literal block unless it
ends with a space, a space meets a following break or a character does not print. -/
def allowed (s : String) : Allowed :=
  let cs := s.toList.toArray
  if cs.isEmpty then { plain := true, singleQuoted := true, literal := false }
  else
    let sc : Scan := if s.startsWith "---" || s.startsWith "..." then
      { blockIndicators := true, flowIndicators := true } else {}
    let sc := (List.range cs.size).foldl (Scan.step cs) sc
    let broken := sc.spaceBreak || sc.special
    { plain := !(sc.leadingSpace || sc.leadingBreak || sc.trailingSpace || sc.trailingBreak ||
          sc.breakSpace || broken || sc.lineBreaks || sc.blockIndicators)
      singleQuoted := !(sc.breakSpace || broken)
      literal := !(sc.trailingSpace || broken) }

/-- How a text is written. -/
inductive Style where
  | plain
  | singleQuoted
  | doubleQuoted
  | literal
  deriving DecidableEq

/-- The style asked for: a literal block for a text with a line feed; single quotes for a text
that would read back as null, a boolean or a number, or that is a decimal with a leading zero;
plain otherwise. -/
def requested (s : String) : Style :=
  if s.contains '\n' then .literal
  else match Plain.resolve s with
    | .text => if Plain.digitsButNotNumber s then .singleQuoted else .plain
    | _ => .singleQuoted

def style (s : String) : Style :=
  let a := allowed s
  match requested s with
  | .plain => if a.plain then .plain else if a.singleQuoted then .singleQuoted else .doubleQuoted
  | .singleQuoted => if a.singleQuoted then .singleQuoted else .doubleQuoted
  | .literal => if a.literal then .literal else .doubleQuoted
  | .doubleQuoted => .doubleQuoted

def pad (n : Nat) : String := String.ofList (List.replicate n ' ')

def doubleQuote (s : String) : String :=
  let hex (n width : Nat) : String :=
    let ds := Nat.toDigits 16 n
    String.ofList ((List.replicate (width - ds.length) '0') ++ ds.map Char.toUpper)
  let esc (c : Char) : String :=
    if printable c && !isBreak c && c != '"' && c != '\\' then String.singleton c
    else match c.toNat with
      | 0 => "\\0" | 7 => "\\a" | 8 => "\\b" | 9 => "\\t" | 10 => "\\n" | 11 => "\\v" | 12 => "\\f"
      | 13 => "\\r" | 27 => "\\e" | 0x22 => "\\\"" | 0x5C => "\\\\" | 0x85 => "\\N" | 0xA0 => "\\_"
      | 0x2028 => "\\L" | 0x2029 => "\\P"
      | n =>
        if n ≤ 0xFF then "\\x" ++ hex n 2
        else if n ≤ 0xFFFF then "\\u" ++ hex n 4
        else "\\U" ++ hex n 8
  "\"" ++ String.join (s.toList.map esc) ++ "\""

/-- The characters of a quoted or block text whose breaks are written as they are: a
character after breaks (or first, when `fresh`) starts a line at `indent`; `quoted` doubles a
first line feed and every quote, as a single-quoted text must. Gives the text and whether it
ended with breaks. -/
def breakLines (quoted fresh : Bool) (indent : Nat) (cs : List Char) : String × Bool :=
  cs.foldl (fun (out, breaks) c =>
    if isBreak c then
      (out ++ (if quoted && !breaks && c == '\n' then "\n" else "") ++ String.singleton c, true)
    else
      let c' := if quoted && c == '\'' then "''" else String.singleton c
      (out ++ (if breaks then pad indent else "") ++ c', false)) ("", fresh)

def singleQuote (s : String) (indent : Nat) : String :=
  let (body, breaks) := breakLines true false indent s.toList
  "'" ++ body ++ (if breaks then pad indent else "") ++ "'"

/-- A literal block for a text, its lines at `indent`, with the line break that ends it. The
header gives the indentation (`2`) when the text starts with a space or break, and keeps every
final break (`+`) when the text ends with two or is one, or strips it (`-`) when it ends with
none. -/
def literalBlock (s : String) (indent : Nat) : String :=
  let cs := s.toList
  let hint := match cs.head? with
    | some c => if c == ' ' || isBreak c then "2" else ""
    | none => ""
  let chomp := match cs.reverse with
    | [] => "-"
    | c :: rest =>
      if !isBreak c then "-"
      else match rest with
        | [] => "+"
        | d :: _ => if isBreak d then "+" else ""
  let (body, breaks) := breakLines false true indent cs
  "|" ++ hint ++ chomp ++ "\n" ++ body ++ (if breaks then "" else "\n")

def scalarText (s : String) (indent : Nat) : String :=
  match style s with
  | .plain => s ++ "\n"
  | .singleQuoted => singleQuote s indent ++ "\n"
  | .doubleQuoted => doubleQuote s ++ "\n"
  | .literal => literalBlock s indent

def scalar (d : Doc) (indent : Nat) : String :=
  match d with
  | .null => "null\n"
  | .bool b => if b then "true\n" else "false\n"
  | .int i => toString i ++ "\n"
  | .float x => (Decimal.shortest x).getD (if x.isNaN then ".nan" else if x < 0 then "-.inf" else ".inf") ++ "\n"
  | .str s => scalarText s indent
  | .seq [] => "[]\n"
  | .map [] => "\x7b\x7d\n"
  | _ => "\n"

mutual

/-- The lines of a mapping's entries at an indentation; the first line has no indentation when
`inline` (it follows `- `). -/
def mappingLines : Nat → List (String × Doc) → Nat → Bool → String
  | _, [], _, _ => ""
  | fuel, (k, v) :: rest, indent, inline =>
    let lead := if inline then "" else pad indent
    let entry := match fuel with
      | 0 => ""
      | f + 1 =>
        match v with
        | .seq (x :: xs) => lead ++ k ++ ":\n" ++ seqLines f (x :: xs) indent
        | .map (e :: es) => lead ++ k ++ ":\n" ++ mappingLines f (e :: es) (indent + 2) false
        | v => lead ++ k ++ ": " ++ scalar v (indent + 2)
    entry ++ mappingLines fuel rest indent false

def seqLines : Nat → List Doc → Nat → String
  | _, [], _ => ""
  | fuel, x :: xs, indent =>
    let item := match fuel with
      | 0 => ""
      | f + 1 =>
        match x with
        | .map (e :: es) => pad indent ++ "- " ++ mappingLines f (e :: es) (indent + 2) true
        | .seq (y :: ys) => pad indent ++ "-\n" ++ seqLines f (y :: ys) (indent + 2)
        | v => pad indent ++ "- " ++ scalar v (indent + 2)
    item ++ seqLines fuel xs indent

end

def depth : Doc → Nat
  | .seq xs => 1 + (xs.attach.map fun ⟨x, _⟩ => depth x).foldl max 0
  | .map es => 1 + (es.attach.map fun ⟨e, _⟩ => depth e.2).foldl max 0
  | _ => 0
decreasing_by
  all_goals simp_wf
  all_goals first
    | (have hm := List.sizeOf_lt_of_mem ‹_ ∈ xs›; omega)
    | (have hm := List.sizeOf_lt_of_mem ‹_ ∈ es›; cases e; simp_all; omega)

def render (d : Doc) : String :=
  match d with
  | .map (e :: es) => mappingLines (depth d + 1) (e :: es) 0 false
  | .seq (x :: xs) => seqLines (depth d + 1) (x :: xs) 0
  | d => scalar d 0

end KeystrokeTally.Yaml

namespace KeystrokeTally.Toml

open Format (Doc)

/-- Whether a text can be written as a literal string, and in which quotes. -/
inductive Quoting where
  | single
  | tripleInline
  | tripleBlock
  | basic

def quoting (s : String) : Quoting :=
  let cs := s.toList
  let control := cs.any fun c => (c.toNat ≤ 0x1F && c != '\t' && c != '\n') || c.toNat == 0x7F
  let triple := (cs.zip ((cs.drop 1).zip (cs.drop 2))).any fun (a, b, c) => a == '\'' && b == '\'' && c == '\''
  let quotes := cs.contains '\''
  if control || triple || (quotes && cs.getLast? == some '\'') then .basic
  else if cs.contains '\n' then .tripleBlock
  else if quotes then .tripleInline
  else .single

def hex4 (n : Nat) : String :=
  let ds := (Nat.toDigits 16 n).map Char.toUpper
  String.ofList (List.replicate (4 - ds.length) '0' ++ ds)

def basicText (s : String) : String :=
  let multi := s.contains '\n'
  let esc (c : Char) : String :=
    match c.toNat with
    | 8 => "\\b" | 9 => "\\t" | 12 => "\\f" | 13 => "\\r" | 0x22 => "\\\"" | 0x5C => "\\\\"
    | 10 => if multi then "\n" else "\\n"
    | n => if n ≤ 0x1F || n == 0x7F then "\\u" ++ hex4 n else String.singleton c
  let body := String.join (s.toList.map esc)
  if multi then "\"\"\"\n" ++ body ++ "\"\"\"" else "\"" ++ body ++ "\""

def text (s : String) : String :=
  match quoting s with
  | .single => "'" ++ s ++ "'"
  | .tripleInline => "'''" ++ s ++ "'''"
  | .tripleBlock => "'''\n" ++ s ++ "'''"
  | .basic => basicText s

def key (k : String) : String :=
  if !k.isEmpty && k.toList.all (fun c => c.isAlphanum || c == '_' || c == '-') then k else basicText k

def valueText : Doc → String
  | .null => ""
  | .bool b => if b then "true" else "false"
  | .int i => toString i
  | .float x => (Decimal.shortest x).getD (if x.isNaN then "nan" else if x < 0 then "-inf" else "inf")
  | .str s => text s
  | .seq [] => "[]"
  | .seq [x] => "[" ++ valueText x ++ "]"
  | .seq xs => "[\n" ++ String.join (xs.attach.map fun ⟨x, _⟩ => "    " ++ valueText x ++ ",\n") ++ "]"
  | .map es => "\x7b " ++ ", ".intercalate (es.attach.map fun ⟨(k, v), _⟩ => key k ++ " = " ++ valueText v) ++ " \x7d"
decreasing_by
  all_goals simp_wf
  all_goals first
    | omega
    | (have hm := List.sizeOf_lt_of_mem ‹_ ∈ xs›; omega)
    | (have hm := List.sizeOf_lt_of_mem ‹_ ∈ es›; simp_all; omega)

def isTables : Doc → Bool
  | .seq (x :: xs) => (x :: xs).all fun d => match d with | .map _ => true | _ => false
  | _ => false

def tableEntries : Doc → List (String × Doc)
  | .map es => es
  | _ => []

def scalarLines (es : List (String × Doc)) : String :=
  String.join ((es.filter fun (_, v) => !isTables v && !(match v with | .null => true | _ => false)).map
    fun (k, v) => key k ++ " = " ++ valueText v ++ "\n")

def render (d : Doc) : String :=
  let es := tableEntries d
  let top := scalarLines es
  es.foldl (fun out (k, v) =>
    if isTables v then
      match v with
      | .seq items =>
        items.foldl (fun out item =>
          out ++ (if out.isEmpty then "" else "\n") ++ "[[" ++ key k ++ "]]\n" ++ scalarLines (tableEntries item)) out
      | _ => out
    else out) top

end KeystrokeTally.Toml
