namespace KeystrokeTally.Yaml

/-- A place in the text: byte offset, line and column (characters), all from zero. -/
structure Mark where
  index : Nat := 0
  line : Nat := 0
  column : Nat := 0
  deriving Repr, Inhabited, BEq, DecidableEq

def Mark.render (m : Mark) : String :=
  "line " ++ toString (m.line + 1) ++ " column " ++ toString (m.column + 1)

def Mark.isStart (m : Mark) : Bool := m.line == 0 && m.column == 0

/-- How a scalar is written. -/
inductive ScalarStyle where
  | plain
  | singleQuoted
  | doubleQuoted
  | literal
  | folded
  deriving Repr, Inhabited, BEq, DecidableEq

/-- What a token is. -/
inductive TokenKind where
  | streamStart
  | streamEnd
  | versionDirective (major minor : Nat)
  | tagDirective (handle pfx : String)
  | documentStart
  | documentEnd
  | blockSequenceStart
  | blockMappingStart
  | blockEnd
  | flowSequenceStart
  | flowSequenceEnd
  | flowMappingStart
  | flowMappingEnd
  | blockEntry
  | flowEntry
  | key
  | value
  | alias (name : String)
  | anchor (name : String)
  | tag (handle suffix : String)
  | scalar (text : String) (style : ScalarStyle)
  deriving Repr, Inhabited, BEq

/-- A token and the places where it starts and ends. -/
structure Token where
  kind : TokenKind
  start : Mark
  stop : Mark
  deriving Repr, Inhabited

/-- Why a text is not YAML. -/
structure Error where
  problem : String
  mark : Mark := {}
  context : Option (String × Mark) := none
  offset : Nat := 0
  deriving Repr, Inhabited

/-- The error as diagnostics write it: the problem with its place, then the construct with its
place when that differs. -/
def Error.render (e : Error) : String :=
  let at_ :=
    if !e.mark.isStart then " at " ++ e.mark.render
    else if e.offset != 0 then " at position " ++ toString e.offset
    else ""
  let ctx := match e.context with
    | none => ""
    | some (c, m) =>
      ", " ++ c ++ (if !m.isStart && !(m.line == e.mark.line && m.column == e.mark.column) then " at " ++ m.render else "")
  e.problem ++ at_ ++ ctx

def Error.within (context : String) (start : Mark) (problem : String) (here : Mark) : Error :=
  { problem, mark := here, context := some (context, start) }

/-- Whether a character breaks a line: line feed, carriage return, next line, line separator
and paragraph separator. -/
def isBreak (c : Char) : Bool :=
  c == '\n' || c == '\r' || c.toNat == 0x85 || c.toNat == 0x2028 || c.toNat == 0x2029

def isBlank (c : Char) : Bool := c == ' ' || c == '\t'

/-- Whether a character may appear in an anchor, a directive name or a tag handle: ASCII
letters and digits, `_` and `-`. -/
def isWordChar (c : Char) : Bool := c.isAlphanum || c == '_' || c == '-'

/-- Whether a character may appear in YAML text at all: tab, line feed, carriage return, the
printable ASCII characters, next line, and every character from U+00A0 up except surrogates,
U+FFFE and U+FFFF. -/
def isAllowed (c : Char) : Bool :=
  let n := c.toNat
  n == 0x09 || n == 0x0A || n == 0x0D || (0x20 ≤ n && n ≤ 0x7E) || n == 0x85 ||
    (0xA0 ≤ n && n ≤ 0xD7FF) || (0xE000 ≤ n && n ≤ 0xFFFD) || 0x10000 ≤ n

/-- The text still to read and the place before it. -/
structure Cursor where
  rest : List Char
  mark : Mark := {}
  deriving Inhabited

namespace Cursor

def peek (c : Cursor) : Option Char := c.rest.head?

def ahead (c : Cursor) (n : Nat) : Option Char := c.rest[n]?

def is (c : Cursor) (ch : Char) : Bool := c.peek == some ch

def isAt (c : Cursor) (n : Nat) (ch : Char) : Bool := c.ahead n == some ch

def blankAt (c : Cursor) (n : Nat) : Bool := (c.ahead n).any isBlank

def breakAt (c : Cursor) (n : Nat) : Bool := (c.ahead n).any isBreak

def blankOrEndAt (c : Cursor) (n : Nat) : Bool :=
  match c.ahead n with
  | none => true
  | some ch => isBlank ch || isBreak ch

def atBreakOrEnd (c : Cursor) : Bool :=
  match c.peek with
  | none => true
  | some ch => isBreak ch

def atEnd (c : Cursor) : Bool := c.rest.isEmpty

def skip (c : Cursor) : Cursor :=
  match c.rest with
  | [] => c
  | ch :: rest => ⟨rest, { index := c.mark.index + ch.utf8Size, line := c.mark.line, column := c.mark.column + 1 }⟩

def skipN (c : Cursor) : Nat → Cursor
  | 0 => c
  | n + 1 => (c.skip).skipN n

def skipLine (c : Cursor) : Cursor :=
  match c.rest with
  | '\r' :: '\n' :: rest => ⟨rest, { index := c.mark.index + 2, line := c.mark.line + 1, column := 0 }⟩
  | ch :: rest =>
    if isBreak ch then ⟨rest, { index := c.mark.index + ch.utf8Size, line := c.mark.line + 1, column := 0 }⟩
    else c
  | [] => c

/-- Reads a line break as scalar text: carriage return with line feed, carriage return, line
feed and next line read as a line feed; the line and paragraph separators as themselves. -/
def readBreak (c : Cursor) : Char × Cursor :=
  match c.rest with
  | ch :: _ => (if ch.toNat == 0x2028 || ch.toNat == 0x2029 then ch else '\n', c.skipLine)
  | [] => ('\n', c)

/-- Whether a document marker (`---` or `...`, then a blank or the end) starts here, at the
start of a line. -/
def atDocumentMarker (c : Cursor) : Bool :=
  c.mark.column == 0 &&
    ((c.isAt 0 '-' && c.isAt 1 '-' && c.isAt 2 '-') || (c.isAt 0 '.' && c.isAt 1 '.' && c.isAt 2 '.')) &&
    c.blankOrEndAt 3

end Cursor

end KeystrokeTally.Yaml
