import KeystrokeTally.Text.Escaped

namespace KeystrokeTally.Toml

/-- Why a text does not give a configuration: a message, the byte offset where the problem was
found if known, and the keys leading to it. -/
structure Error where
  message : String
  offset : Option Nat := none
  keys : List String := []
  deriving Repr, Inhabited

def Error.at (offset : Nat) (message : String) : Error := { message, offset := some offset }

def Error.placeAt (e : Error) (o : Nat) : Error :=
  match e.offset with
  | none => { e with offset := some o }
  | some _ => e

def Error.under (e : Error) (key : String) : Error := { e with keys := key :: e.keys }

/-- The line and column (from zero, the column in bytes) of a byte offset: lines are the
pieces between line feeds, and an offset past them all is the start of the line after the
last. -/
def lineColumn (text : String) (offset : Nat) : Nat × Nat :=
  let pieces := text.splitOn "\n"
  let lines := if text.endsWith "\n" then pieces.dropLast else pieces
  let rec go : List String → Nat → Nat → Nat × Nat
    | [], i, _ => (i, 0)
    | l :: ls, i, cur =>
      if cur + l.utf8ByteSize + 1 > offset then (i, offset - cur) else go ls (i + 1) (cur + l.utf8ByteSize + 1)
  go (if text.isEmpty then [] else lines) 0 0

def Error.render (text : String) (e : Error) : String :=
  let keys := if e.keys.isEmpty then "" else " for key `" ++ ".".intercalate e.keys ++ "`"
  let place := match e.offset with
    | none => ""
    | some o =>
      let (l, c) := lineColumn text o
      " at line " ++ toString (l + 1) ++ " column " ++ toString (c + 1)
  e.message ++ keys ++ place

/-- What a token is. -/
inductive Token where
  | blank (text : String)
  | newline
  | comment
  | equals
  | period
  | comma
  | colon
  | plus
  | leftBrace
  | rightBrace
  | leftBracket
  | rightBracket
  | word (text : String)
  | string (value : String) (multiline : Bool)
  deriving Repr, Inhabited, BEq

def Token.describe : Token → String
  | .word _ => "an identifier"
  | .equals => "an equals"
  | .period => "a period"
  | .comment => "a comment"
  | .newline => "a newline"
  | .blank _ => "whitespace"
  | .comma => "a comma"
  | .rightBrace => "a right brace"
  | .leftBrace => "a left brace"
  | .rightBracket => "a right bracket"
  | .leftBracket => "a left bracket"
  | .string _ multiline => if multiline then "a multiline string" else "a string"
  | .colon => "a colon"
  | .plus => "a plus"

/-- A token and the byte offsets where it starts and ends. -/
structure Spanned where
  token : Token
  start : Nat
  stop : Nat
  deriving Repr, Inhabited

def isWordChar (c : Char) : Bool :=
  ('A' ≤ c && c ≤ 'Z') || ('a' ≤ c && c ≤ 'z') || ('0' ≤ c && c ≤ '9') || c == '-' || c == '_'

def isStringChar (c : Char) : Bool :=
  c == '\t' || (0x20 ≤ c.toNat && c.toNat != 0x7F)

/-- The text still to read and the byte offset before it. -/
structure Scanner where
  rest : List Char
  offset : Nat := 0
  deriving Inhabited

namespace Scanner

def start (text : String) : Scanner :=
  match text.toList with
  | c :: rest => if c.toNat == 0xFEFF then ⟨rest, 3⟩ else ⟨c :: rest, 0⟩
  | [] => ⟨[], 0⟩

/-- The next character with its offset, a carriage return and line feed read as one line
feed. -/
def one (s : Scanner) : Option ((Nat × Char) × Scanner) :=
  match s.rest with
  | '\r' :: '\n' :: rest => some ((s.offset, '\n'), ⟨rest, s.offset + 2⟩)
  | c :: rest => some ((s.offset, c), ⟨rest, s.offset + c.utf8Size⟩)
  | [] => none

def peekChar (s : Scanner) : Option Char := (s.one).map (·.1.2)

def eatChar (s : Scanner) (c : Char) : Option Scanner :=
  match s.one with
  | some ((_, d), s') => if c == d then some s' else none
  | none => none

def eatCharOr (s : Scanner) (c : Char) : Bool × Scanner :=
  match s.eatChar c with
  | some s' => (true, s')
  | none => (false, s)

def skipBlanks (s : Scanner) : Scanner :=
  let rec go : Nat → Scanner → Scanner
    | 0, s => s
    | fuel + 1, s =>
      match s.eatChar ' ' with
      | some s => go fuel s
      | none => match s.eatChar '\t' with
        | some s => go fuel s
        | none => s
  go s.rest.length s

def skipCommentText (s : Scanner) : Scanner :=
  let rec go : Nat → Scanner → Scanner
    | 0, s => s
    | fuel + 1, s =>
      match s.one with
      | some ((_, c), s') => if c == '\t' || 0x20 ≤ c.toNat then go fuel s' else s
      | none => s
  go s.rest.length s

def skipWord (s : Scanner) : Scanner :=
  let rec go : Nat → Scanner → Scanner
    | 0, s => s
    | fuel + 1, s =>
      match s.one with
      | some ((_, c), s') => if isWordChar c then go fuel s' else s
      | none => s
  go s.rest.length s

def skipLine (s : Scanner) : Scanner :=
  let rec go : Nat → Scanner → Scanner
    | 0, s => s
    | fuel + 1, s =>
      match s.one with
      | some ((_, c), s') => if c == '\n' then s' else go fuel s'
      | none => s
  go s.rest.length s

def between (a b : Scanner) : String :=
  String.ofList (a.rest.take (a.rest.length - b.rest.length))

/-- Reads the digits of a unicode escape of `len` hex digits, after its letter at offset `at_`,
in a string starting at `start`. -/
def hexEscape (s : Scanner) (start at_ len : Nat) : Except Error (Char × Scanner) :=
  let rec go : Nat → Nat → Scanner → Except Error (Nat × Scanner)
    | 0, v, s => .ok (v, s)
    | n + 1, v, s =>
      match s.one with
      | some ((i, c), s') =>
        let d := if '0' ≤ c && c ≤ '9' then some (c.toNat - '0'.toNat)
          else if 'a' ≤ c && c ≤ 'f' then some (c.toNat - 'a'.toNat + 10)
          else if 'A' ≤ c && c ≤ 'F' then some (c.toNat - 'A'.toNat + 10)
          else none
        match d with
        | some d => go n (v * 16 + d) s'
        | none => .error (Error.at i ("invalid hex escape character in string: `" ++ Text.escapeDefault c ++ "`"))
      | none => .error (Error.at start "unterminated string")
  match go len 0 s with
  | .error e => .error e
  | .ok (v, s) =>
    if v < 0xD800 || (0xDFFF < v && v < 0x110000) then .ok (Char.ofNat v, s)
    else .error (Error.at at_ ("invalid escape value: `" ++ toString v ++ "`"))

def skipBlankLines (s : Scanner) : Scanner :=
  let rec go : Nat → Scanner → Scanner
    | 0, s => s
    | fuel + 1, s =>
      match s.one with
      | some ((_, c), s') => if c == ' ' || c == '\t' || c == '\n' then go fuel s' else s
      | none => s
  go s.rest.length s

/-- After a backslash and a blank in a multi-line basic string: blanks up to the end of the
line, which must come, then blanks and line feeds. -/
def lineContinuation (s : Scanner) (at_ : Nat) (c : Char) : Except Error Scanner :=
  let rec go : Nat → Scanner → Except Error Scanner
    | 0, s => .ok s
    | fuel + 1, s =>
      match s.one with
      | some ((_, d), s') =>
        if d == ' ' || d == '\t' then go fuel s'
        else if d == '\n' then .ok s'
        else .error (Error.at at_ ("invalid escape character in string: `" ++ Text.escapeDefault c ++ "`"))
      | none => .ok s
  (go s.rest.length s).map skipBlankLines

def escape (s : Scanner) (start : Nat) (multiline : Bool) : Except Error (List Char × Scanner) :=
  match s.one with
  | none => .error (Error.at start "unterminated string")
  | some ((i, c), s) =>
    match c with
    | '"' => .ok (['"'], s)
    | '\\' => .ok (['\\'], s)
    | 'b' => .ok ([Char.ofNat 8], s)
    | 'f' => .ok ([Char.ofNat 12], s)
    | 'n' => .ok (['\n'], s)
    | 'r' => .ok (['\r'], s)
    | 't' => .ok (['\t'], s)
    | 'u' => (hexEscape s start i 4).map fun (ch, s) => ([ch], s)
    | 'U' => (hexEscape s start i 8).map fun (ch, s) => ([ch], s)
    | c =>
      if multiline && (c == ' ' || c == '\t') then (lineContinuation s i c).map ([], ·)
      else if multiline && c == '\n' then .ok ([], skipBlankLines s)
      else .error (Error.at i ("invalid escape character in string: `" ++ Text.escapeDefault c ++ "`"))

def stringBody (delim : Char) (basic multiline : Bool) (start : Nat) :
    Nat → Bool → List Char → Scanner → Except Error (String × Scanner)
  | 0, _, acc, s => .ok (String.ofList acc.reverse, s)
  | fuel + 1, first, acc, s =>
    match s.one with
    | none => .error (Error.at start "unterminated string")
    | some ((i, c), s1) =>
      if c == '\n' then
        if multiline then stringBody delim basic multiline start fuel false (if first then acc else '\n' :: acc) s1
        else .error (Error.at i "newline in string found")
      else if c == delim then
        if multiline then
          match s1.eatChar delim with
          | none => stringBody delim basic multiline start fuel false (delim :: acc) s1
          | some s2 =>
            match s2.eatChar delim with
            | none => stringBody delim basic multiline start fuel false (delim :: delim :: acc) s2
            | some s3 =>
              let (more1, s4) := s3.eatCharOr delim
              let (more2, s5) := s4.eatCharOr delim
              let extra := (if more1 then [delim] else []) ++ (if more2 then [delim] else [])
              .ok (String.ofList (acc.reverse ++ extra), s5)
        else .ok (String.ofList acc.reverse, s1)
      else if basic && c == '\\' then
        match escape s1 start multiline with
        | .error e => .error e
        | .ok (cs, s2) => stringBody delim basic multiline start fuel false (cs.reverse ++ acc) s2
      else if isStringChar c then stringBody delim basic multiline start fuel false (c :: acc) s1
      else .error (Error.at i ("invalid character in string: `" ++ Text.escapeDefault c ++ "`"))

def readString (s : Scanner) (delim : Char) (start : Nat) : Except Error (Token × Scanner) :=
  match s.eatChar delim with
  | some s1 =>
    match s1.eatChar delim with
    | some s2 => do
      let (v, s) ← stringBody delim (delim == '"') true start (s2.rest.length + 1) true [] s2
      pure (.string v true, s)
    | none => .ok (.string "" false, s1)
  | none => do
    let (v, s) ← stringBody delim (delim == '"') false start (s.rest.length + 1) true [] s
    pure (.string v false, s)

def next (s : Scanner) : Except Error (Option (Spanned × Scanner)) :=
  match s.one with
  | none => .ok none
  | some ((start, c), s1) =>
    let simple (t : Token) : Except Error (Option (Spanned × Scanner)) := .ok (some (⟨t, start, s1.offset⟩, s1))
    match c with
    | '\n' => simple .newline
    | ' ' | '\t' =>
      let s2 := s1.skipBlanks
      .ok (some (⟨.blank (s.between s2), start, s2.offset⟩, s2))
    | '#' =>
      let s2 := s1.skipCommentText
      .ok (some (⟨.comment, start, s2.offset⟩, s2))
    | '=' => simple .equals
    | '.' => simple .period
    | ',' => simple .comma
    | ':' => simple .colon
    | '+' => simple .plus
    | '{' => simple .leftBrace
    | '}' => simple .rightBrace
    | '[' => simple .leftBracket
    | ']' => simple .rightBracket
    | '\'' | '"' => do
      let (t, s2) ← s1.readString c start
      pure (some (⟨t, start, s2.offset⟩, s2))
    | c =>
      if isWordChar c then
        let s2 := s1.skipWord
        .ok (some (⟨.word (s.between s2), start, s2.offset⟩, s2))
      else .error (Error.at start ("unexpected character found: `" ++ Text.escapeDefault c ++ "`"))

def peek (s : Scanner) : Except Error (Option Spanned) :=
  (s.next).map fun r => r.map (·.1)

def eatSpanned (s : Scanner) (t : Token) : Except Error (Option Nat × Scanner) := do
  match ← s.next with
  | some (sp, s') => if sp.token == t then pure (some sp.stop, s') else pure (none, s)
  | none => pure (none, s)

def eat (s : Scanner) (t : Token) : Except Error (Bool × Scanner) :=
  (s.eatSpanned t).map fun (r, s) => (r.isSome, s)

def wanted (at_ : Nat) (expected found : String) : Error :=
  Error.at at_ ("expected " ++ expected ++ ", found " ++ found)

def expect (s : Scanner) (t : Token) : Except Error Scanner := do
  match ← s.next with
  | some (sp, s') => if sp.token == t then pure s' else throw (wanted s.offset t.describe sp.token.describe)
  | none => throw (wanted (s.offset + s.rest.foldl (fun n c => n + c.utf8Size) 0) t.describe "eof")

def endOffset (s : Scanner) : Nat := s.offset + s.rest.foldl (fun n c => n + c.utf8Size) 0

def newlineOrEnd (s : Scanner) : Except Error Scanner := do
  match ← s.next with
  | none => pure s
  | some (sp, s') => if sp.token == .newline then pure s' else throw (wanted s.offset "newline" sp.token.describe)

def eatComment (s : Scanner) : Except Error (Bool × Scanner) :=
  match s.eatChar '#' with
  | none => .ok (false, s)
  | some s1 => (s1.skipCommentText.newlineOrEnd).map (true, ·)

def key (s : Scanner) : Except Error (String × Scanner) := do
  match ← s.next with
  | some (sp, s') =>
    match sp.token with
    | .word w => pure (w, s')
    | .string v multiline =>
      if multiline then throw (Error.at sp.start "multiline strings are not allowed for key") else pure (v, s')
    | t => throw (wanted s.offset "a table key" t.describe)
  | none => throw (wanted s.endOffset "a table key" "eof")

end Scanner

end KeystrokeTally.Toml
