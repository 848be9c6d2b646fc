import KeystrokeTally.Format.Yaml.Token

namespace KeystrokeTally.Yaml

def hexDigit (c : Char) : Option Nat :=
  if '0' ≤ c && c ≤ '9' then some (c.toNat - '0'.toNat)
  else if 'a' ≤ c && c ≤ 'f' then some (c.toNat - 'a'.toNat + 10)
  else if 'A' ≤ c && c ≤ 'F' then some (c.toNat - 'A'.toNat + 10)
  else none

def hexValue (c : Cursor) (n : Nat) : Option Nat :=
  (List.range n).foldlM (fun acc k => do let d ← (c.ahead k).bind hexDigit; pure (acc * 16 + d)) 0

/-- The character that a one-letter escape of a double-quoted scalar stands for, or the number
of hexadecimal digits that follow it. -/
def escapeOf : Char → Option (Sum Char Nat)
  | '0' => some (.inl (Char.ofNat 0))
  | 'a' => some (.inl (Char.ofNat 7))
  | 'b' => some (.inl (Char.ofNat 8))
  | 't' => some (.inl '\t')
  | '\t' => some (.inl '\t')
  | 'n' => some (.inl '\n')
  | 'v' => some (.inl (Char.ofNat 11))
  | 'f' => some (.inl (Char.ofNat 12))
  | 'r' => some (.inl '\r')
  | 'e' => some (.inl (Char.ofNat 27))
  | ' ' => some (.inl ' ')
  | '"' => some (.inl '"')
  | '/' => some (.inl '/')
  | '\\' => some (.inl '\\')
  | 'N' => some (.inl (Char.ofNat 0x85))
  | '_' => some (.inl (Char.ofNat 0xA0))
  | 'L' => some (.inl (Char.ofNat 0x2028))
  | 'P' => some (.inl (Char.ofNat 0x2029))
  | 'x' => some (.inr 2)
  | 'u' => some (.inr 4)
  | 'U' => some (.inr 8)
  | _ => none

/-- Blanks and line breaks between two runs of a flow or plain scalar: the blanks before the
first break, the first break, the breaks after it, and whether a break was met. -/
structure Gap where
  blanks : String := ""
  leading : String := ""
  trailing : String := ""
  broken : Bool := false

/-- The text a gap reads as before the next run: its blanks when it has no break; otherwise a
space for a single line feed, and the further breaks in place of the first when there are
some. -/
def Gap.fold (g : Gap) : String :=
  if g.broken then
    if g.leading == "\n" then (if g.trailing.isEmpty then " " else g.trailing)
    else g.leading ++ g.trailing
  else g.blanks

def Gap.blank (g : Gap) (ch : Char) : Gap :=
  if g.broken then g else { g with blanks := g.blanks.push ch }

def Gap.lineBreak (g : Gap) (br : Char) : Gap :=
  if g.broken then { g with trailing := g.trailing.push br }
  else { g with blanks := "", leading := String.singleton br, broken := true }

section Quoted

variable (single : Bool) (start : Mark)

def quotedError (problem : String) (here : Mark) : Error :=
  Error.within "while parsing a quoted scalar" start problem here

/-- Reads the characters of a quoted scalar up to a blank, a line break, the end of the text,
the closing quote, or an escaped line break (which also reports `true`). -/
def quotedRun : Nat → String → Cursor → Except Error (String × Cursor × Bool)
  | 0, text, c => .ok (text, c, false)
  | fuel + 1, text, c =>
    if c.blankOrEndAt 0 then .ok (text, c, false)
    else if single && c.is '\'' && c.isAt 1 '\'' then quotedRun fuel (text.push '\'') (c.skipN 2)
    else if c.is (if single then '\'' else '"') then .ok (text, c, false)
    else if !single && c.is '\\' && c.breakAt 1 then .ok (text, c.skip.skipLine, true)
    else if !single && c.is '\\' then
      match (c.ahead 1).bind escapeOf with
      | none => .error (quotedError start "found unknown escape character" c.mark)
      | some (.inl ch) => quotedRun fuel (text.push ch) (c.skipN 2)
      | some (.inr n) =>
        let c := c.skipN 2
        match hexValue c n with
        | none => .error (quotedError start "did not find expected hexdecimal number" c.mark)
        | some v =>
          if (0xD800 ≤ v && v ≤ 0xDFFF) || v > 0x10FFFF then
            .error (quotedError start "found invalid Unicode character escape code" c.mark)
          else quotedRun fuel (text.push (Char.ofNat v)) (c.skipN n)
    else
      match c.peek with
      | some ch => quotedRun fuel (text.push ch) c.skip
      | none => .ok (text, c, false)

def flowGap : Nat → Gap → Cursor → Gap × Cursor
  | 0, g, c => (g, c)
  | fuel + 1, g, c =>
    match c.peek with
    | some ch =>
      if isBlank ch then flowGap fuel (g.blank ch) c.skip
      else if isBreak ch then
        let (br, c) := c.readBreak
        flowGap fuel (g.lineBreak br) c
      else (g, c)
    | none => (g, c)

def quotedLines : Nat → String → Cursor → Except Error (String × Cursor)
  | 0, _, c => .error (Error.within "while scanning a quoted scalar" start "found unexpected end of stream" c.mark)
  | fuel + 1, text, c => do
    if c.atDocumentMarker then
      throw (Error.within "while scanning a quoted scalar" start "found unexpected document indicator" c.mark)
    if c.atEnd then
      throw (Error.within "while scanning a quoted scalar" start "found unexpected end of stream" c.mark)
    let (text, c, escapedBreak) ← quotedRun single start (c.rest.length + 1) text c
    if c.is (if single then '\'' else '"') then return (text, c)
    let (g, c) := flowGap (c.rest.length + 1) { broken := escapedBreak } c
    quotedLines fuel (text ++ g.fold) c

end Quoted

def scanQuoted (single : Bool) (c : Cursor) : Except Error (Token × Cursor) := do
  let start := c.mark
  let (text, c) ← quotedLines single start (c.rest.length + 2) "" c.skip
  let c := c.skip
  pure (⟨.scalar text (if single then .singleQuoted else .doubleQuoted), start, c.mark⟩, c)

section Plain

variable (flowLevel : Nat) (indent : Int) (start : Mark)

/-- Reads the characters of a plain scalar up to a blank, a line break, the end of the text, a
`:` before a blank, or (inside a flow collection) a flow indicator. The gap before the run is
folded in before its first character. Returns the text, the end of its last character, the
gap still pending, and the text after. -/
def plainRun : Nat → String → Mark → Gap → Cursor → Except Error (String × Mark × Gap × Cursor)
  | 0, text, stop, g, c => .ok (text, stop, g, c)
  | fuel + 1, text, stop, g, c =>
    match c.peek with
    | none => .ok (text, stop, g, c)
    | some ch =>
      if isBlank ch || isBreak ch then .ok (text, stop, g, c)
      else if flowLevel > 0 && ch == ':' &&
          (c.isAt 1 ',' || c.isAt 1 '?' || c.isAt 1 '[' || c.isAt 1 ']' || c.isAt 1 '\x7b' || c.isAt 1 '\x7d') then
        .error (Error.within "while scanning a plain scalar" start "found unexpected ':'" c.mark)
      else if (ch == ':' && c.blankOrEndAt 1) ||
          (flowLevel > 0 && (ch == ',' || ch == '[' || ch == ']' || ch == '\x7b' || ch == '\x7d')) then
        .ok (text, stop, g, c)
      else
        let text := text ++ g.fold
        let c := c.skip
        plainRun fuel (text.push ch) c.mark {} c

/-- Reads blanks and line breaks after a run of a plain scalar; a tab that stands in the
indentation after a line break is an error. -/
def plainGap : Nat → Gap → Cursor → Except Error (Gap × Cursor)
  | 0, g, c => .ok (g, c)
  | fuel + 1, g, c =>
    match c.peek with
    | some ch =>
      if isBlank ch then
        if g.broken && (c.mark.column : Int) < indent + 1 && ch == '\t' then
          .error (Error.within "while scanning a plain scalar" start "found a tab character that violates indentation" c.mark)
        else plainGap fuel (g.blank ch) c.skip
      else if isBreak ch then
        let (br, c) := c.readBreak
        plainGap fuel (g.lineBreak br) c
      else .ok (g, c)
    | none => .ok (g, c)

/-- Reads the lines of a plain scalar: it ends at a document marker, a comment, an indicator
that ends a run, or (outside flow collections) a line indented no deeper than the enclosing
block. Returns the text, its end, whether it ended after a line break, and the text after. -/
def plainLines : Nat → String → Mark → Gap → Cursor → Except Error (String × Mark × Bool × Cursor)
  | 0, text, stop, g, c => .ok (text, stop, g.broken, c)
  | fuel + 1, text, stop, g, c => do
    if c.atDocumentMarker || c.is '#' then return (text, stop, g.broken, c)
    let (text, stop, g, c) ← plainRun flowLevel start (c.rest.length + 1) text stop g c
    if !(c.blankAt 0 || c.breakAt 0) then return (text, stop, g.broken, c)
    let (g, c) ← plainGap indent start (c.rest.length + 1) g c
    if flowLevel == 0 && (c.mark.column : Int) < indent + 1 then return (text, stop, g.broken, c)
    plainLines fuel text stop g c

end Plain

/-- Reads a plain scalar; also reports whether it ended after a line break, where a simple key
may start again. -/
def scanPlain (flowLevel : Nat) (indent : Int) (c : Cursor) : Except Error (Token × Bool × Cursor) := do
  let start := c.mark
  let (text, stop, broken, c) ← plainLines flowLevel indent start (c.rest.length + 1) "" start {} c
  pure (⟨.scalar text .plain, start, stop⟩, broken, c)

section Block

variable (start : Mark)

def blockError (problem : String) (here : Mark) : Error :=
  Error.within "while scanning a block scalar" start problem here

/-- Skips the indentation of the lines before the next non-empty line of a block scalar,
collecting their line breaks. Without a known indentation (`indent` zero) any number of spaces
is skipped and the deepest column reached is reported. Returns the breaks, the deepest column,
the end of the last break, and the text after. -/
def blockBreaks (indent : Nat) : Nat → String → Nat → Mark → Cursor →
    Except Error (String × Nat × Mark × Cursor)
  | 0, breaks, deepest, stop, c => .ok (breaks, deepest, stop, c)
  | fuel + 1, breaks, deepest, stop, c =>
    let c := skipIndent (c.rest.length + 1) c
    let deepest := max deepest c.mark.column
    if (indent == 0 || c.mark.column < indent) && c.is '\t' then
      .error (blockError start "found a tab character where an indentation space is expected" c.mark)
    else if c.breakAt 0 then
      let (br, c) := c.readBreak
      blockBreaks indent fuel (breaks.push br) deepest c.mark c
    else .ok (breaks, deepest, stop, c)
where
  skipIndent : Nat → Cursor → Cursor
    | 0, c => c
    | fuel + 1, c => if (indent == 0 || c.mark.column < indent) && c.is ' ' then skipIndent fuel c.skip else c

def blockLine : Nat → String → Cursor → String × Cursor
  | 0, text, c => (text, c)
  | fuel + 1, text, c =>
    match c.peek with
    | some ch => if isBreak ch then (text, c) else blockLine fuel (text.push ch) c.skip
    | none => (text, c)

/-- The lines of a block scalar so far: its text, the line break after the last line, the empty
lines after that, and whether the last line started with a blank. -/
structure BlockText where
  text : String := ""
  leading : String := ""
  trailing : String := ""
  leadingBlank : Bool := false

/-- Reads the lines of a block scalar at indentation `indent`, until a line that is indented
less or the end of the text. -/
def blockLines (literal : Bool) (indent : Nat) : Nat → BlockText → Mark → Cursor →
    Except Error (BlockText × Mark × Cursor)
  | 0, b, stop, c => .ok (b, stop, c)
  | fuel + 1, b, stop, c =>
    if c.mark.column != indent || c.atEnd then .ok (b, stop, c)
    else
      let trailingBlank := c.blankAt 0
      let text :=
        if !literal && b.leading == "\n" && !b.leadingBlank && !trailingBlank then
          (if b.trailing.isEmpty then b.text.push ' ' else b.text)
        else b.text ++ b.leading
      let text := text ++ b.trailing
      let leadingBlank := c.blankAt 0
      let (text, c) := blockLine (c.rest.length + 1) text c
      let (br, c) := if c.atEnd then ("", c) else (fun (p : Char × Cursor) => (String.singleton p.1, p.2)) c.readBreak
      match blockBreaks start indent (c.rest.length + 1) "" 0 c.mark c with
      | .error e => .error e
      | .ok (trailing, _, stop, c) =>
        blockLines literal indent fuel { text, leading := br, trailing, leadingBlank } stop c

/-- Reads the header of a block scalar after its indicator: a chomping indicator and an
indentation digit in either order. Returns the chomping (`-1` strip, `0` clip, `1` keep), the
indentation increment (zero when absent), and the text after. -/
def blockHeader (c : Cursor) : Except Error (Int × Nat × Cursor) :=
  let chompOf (c : Cursor) : Option Int :=
    if c.is '+' then some 1 else if c.is '-' then some (-1) else none
  let digitOf (c : Cursor) : Option Nat :=
    match c.peek with
    | some d => if d.isDigit then some (d.toNat - '0'.toNat) else none
    | none => none
  match chompOf c with
  | some chomp =>
    let c := c.skip
    match digitOf c with
    | some 0 => .error (blockError start "found an indentation indicator equal to 0" c.mark)
    | some d => .ok (chomp, d, c.skip)
    | none => .ok (chomp, 0, c)
  | none =>
    match digitOf c with
    | some 0 => .error (blockError start "found an indentation indicator equal to 0" c.mark)
    | some d =>
      let c := c.skip
      match chompOf c with
      | some chomp => .ok (chomp, d, c.skip)
      | none => .ok (0, d, c)
    | none => .ok (0, 0, c)

end Block

def skipBlanks (c : Cursor) : Cursor :=
  let rec go : Nat → Cursor → Cursor
    | 0, c => c
    | fuel + 1, c => if c.blankAt 0 then go fuel c.skip else c
  go (c.rest.length + 1) c

def skipComment (c : Cursor) : Cursor :=
  let rec go : Nat → Cursor → Cursor
    | 0, c => c
    | fuel + 1, c => if c.atBreakOrEnd then c else go fuel c.skip
  go (c.rest.length + 1) c

def skipToLineEnd (c : Cursor) : Cursor :=
  let c := skipBlanks c
  if c.is '#' then skipComment c else c

/-- Reads a block scalar at its indicator (`|` literal, `>` folded), where the enclosing block
is indented `parent` (-1 at the top). -/
def scanBlock (literal : Bool) (parent : Int) (c : Cursor) : Except Error (Token × Cursor) := do
  let start := c.mark
  let (chomp, increment, c) ← blockHeader start c.skip
  let c := skipToLineEnd c
  if !c.atBreakOrEnd then
    throw (blockError start "did not find expected comment or line break" c.mark)
  let c := if c.breakAt 0 then c.skipLine else c
  let stop := c.mark
  let given : Nat := if increment == 0 then 0 else if parent ≥ 0 then parent.toNat + increment else increment
  let (trailing, deepest, stop, c) ← blockBreaks start given (c.rest.length + 1) "" 0 stop c
  let indent :=
    if given != 0 then given
    else max (max deepest (parent + 1).toNat) 1
  let (b, stop, c) ← blockLines start literal indent (c.rest.length + 1) { trailing } stop c
  let text := if chomp != -1 then b.text ++ b.leading else b.text
  let text := if chomp == 1 then text ++ b.trailing else text
  pure (⟨.scalar text (if literal then .literal else .folded), start, stop⟩, c)

def digitRun : Nat → String → Cursor → String × Cursor
  | 0, s, c => (s, c)
  | fuel + 1, s, c =>
    match c.peek with
    | some d => if d.isDigit then digitRun fuel (s.push d) c.skip else (s, c)
    | none => (s, c)

def wordRun : Nat → String → Cursor → String × Cursor
  | 0, s, c => (s, c)
  | fuel + 1, s, c =>
    match c.peek with
    | some ch => if isWordChar ch then wordRun fuel (s.push ch) c.skip else (s, c)
    | none => (s, c)

/-- Reads an anchor (`&name`) or an alias (`*name`) at its indicator. The name is one or more
word characters, followed by a blank, a line break, the end, or one of `?:,]\x7d%@` and the
backquote. -/
def scanAnchor (isAlias : Bool) (c : Cursor) : Except Error (Token × Cursor) :=
  let start := c.mark
  let (name, c) := wordRun (c.rest.length + 1) "" c.skip
  let ends := c.blankOrEndAt 0 || c.is '?' || c.is ':' || c.is ',' || c.is ']' || c.is '\x7d' ||
    c.is '%' || c.is '@' || c.is '`'
  if name.isEmpty || !ends then
    .error (Error.within (if isAlias then "while scanning an alias" else "while scanning an anchor") start
      "did not find expected alphabetic or numeric character" c.mark)
  else .ok (⟨if isAlias then .alias name else .anchor name, start, c.mark⟩, c)

def isUriChar (verbatim : Bool) (ch : Char) : Bool :=
  isWordChar ch || ";/?:@&=+$.%!~*'()".contains ch || (verbatim && (ch == ',' || ch == '[' || ch == ']'))

def uriEscape (context : String) (start : Mark) : Nat → Nat → List Nat → Cursor →
    Except Error (Char × Cursor)
  | 0, _, _, c => .error (Error.within context start "did not find URI escaped octet" c.mark)
  | fuel + 1, width, acc, c =>
    if !(c.is '%' && ((c.ahead 1).bind hexDigit).isSome && ((c.ahead 2).bind hexDigit).isSome) then
      .error (Error.within context start "did not find URI escaped octet" c.mark)
    else
      let octet := ((c.ahead 1).bind hexDigit).getD 0 * 16 + ((c.ahead 2).bind hexDigit).getD 0
      let width' :=
        if width != 0 then width
        else if octet &&& 0x80 == 0 then 1
        else if octet &&& 0xE0 == 0xC0 then 2
        else if octet &&& 0xF0 == 0xE0 then 3
        else if octet &&& 0xF8 == 0xF0 then 4
        else 0
      if width' == 0 then
        .error (Error.within context start "found an incorrect leading UTF-8 octet" c.mark)
      else if width != 0 && octet &&& 0xC0 != 0x80 then
        .error (Error.within context start "found an incorrect trailing UTF-8 octet" c.mark)
      else
        let acc := acc ++ [octet]
        let c := c.skipN 3
        if acc.length == width' then
          let code := match acc with
            | [a] => a
            | [a, b] => (a &&& 0x1F) * 64 + (b &&& 0x3F)
            | [a, b, d] => (a &&& 0x0F) * 4096 + (b &&& 0x3F) * 64 + (d &&& 0x3F)
            | [a, b, d, e] => (a &&& 0x07) * 262144 + (b &&& 0x3F) * 4096 + (d &&& 0x3F) * 64 + (e &&& 0x3F)
            | _ => 0
          .ok (Char.ofNat code, c)
        else uriEscape context start fuel width' acc c

/-- Reads the URI of a tag after `head` (whose leading `!` is dropped). An empty URI is an
error. -/
def tagUri (verbatim directive : Bool) (head : String) (start : Mark) (c : Cursor) : Except Error (String × Cursor) :=
  let context := if directive then "while parsing a %TAG directive" else "while parsing a tag"
  let rec go : Nat → String → Nat → Cursor → Except Error (String × Nat × Cursor)
    | 0, s, n, c => .ok (s, n, c)
    | fuel + 1, s, n, c =>
      match c.peek with
      | some ch =>
        if !isUriChar verbatim ch then .ok (s, n, c)
        else if ch == '%' then do
          let (decoded, c) ← uriEscape context start 4 0 [] c
          go fuel (s.push decoded) (n + 1) c
        else go fuel (s.push ch) (n + 1) c.skip
      | none => .ok (s, n, c)
  match go (c.rest.length + 1) (String.ofList (head.toList.drop 1)) head.length c with
  | .error e => .error e
  | .ok (s, n, c) =>
    if n == 0 then .error (Error.within context start "did not find expected tag URI" c.mark)
    else .ok (s, c)

/-- Reads a tag handle: `!`, then word characters, then `!` if there is one. In a directive a
handle that does not end in `!` is an error unless it is `!` alone. -/
def tagHandle (directive : Bool) (start : Mark) (c : Cursor) : Except Error (String × Cursor) :=
  if !c.is '!' then
    .error (Error.within (if directive then "while scanning a tag directive" else "while scanning a tag") start
      "did not find expected '!'" c.mark)
  else
    let (word, c) := wordRun (c.rest.length + 1) "!" c.skip
    if c.is '!' then .ok (word.push '!', c.skip)
    else if directive && word != "!" then
      .error (Error.within "while parsing a tag directive" start "did not find expected '!'" c.mark)
    else .ok (word, c)

/-- Reads a tag at its `!`: verbatim `!<uri>`, `!handle!suffix`, `!suffix`, or `!` alone. A tag
ends at a blank, a line break, the end, or a `,` inside a flow collection. -/
def scanTag (flowLevel : Nat) (c : Cursor) : Except Error (Token × Cursor) := do
  let start := c.mark
  let (handle, suffix, c) ←
    if c.isAt 1 '<' then do
      let (suffix, c) ← tagUri true false "" start (c.skipN 2)
      if !c.is '>' then throw (Error.within "while scanning a tag" start "did not find the expected '>'" c.mark)
      pure ("", suffix, c.skip)
    else do
      let (handle, c) ← tagHandle false start c
      if handle.startsWith "!" && handle.length > 1 && handle.endsWith "!" then
        let (suffix, c) ← tagUri false false "" start c
        pure (handle, suffix, c)
      else
        let (suffix, c) ← tagUri false false handle start c
        if suffix.isEmpty then pure ("", "!", c) else pure ("!", suffix, c)
  if !(c.blankOrEndAt 0 || (flowLevel > 0 && c.is ',')) then
    throw (Error.within "while scanning a tag" start "did not find expected whitespace or line break" c.mark)
  pure (⟨.tag handle suffix, start, c.mark⟩, c)

def scanDirective (c : Cursor) : Except Error (Token × Cursor) := do
  let start := c.mark
  let ctx := "while scanning a directive"
  let (name, c) := wordRun (c.rest.length + 1) "" c.skip
  if name.isEmpty then throw (Error.within ctx start "could not find expected directive name" c.mark)
  if !c.blankOrEndAt 0 then throw (Error.within ctx start "found unexpected non-alphabetical character" c.mark)
  let (kind, c) ←
    if name == "YAML" then do
      let vctx := "while scanning a %YAML directive"
      let number (c : Cursor) : Except Error (Nat × Cursor) :=
        let (digits, rest) := digitRun (c.rest.length + 1) "" c
        if digits.length > 9 then .error (Error.within vctx start "found extremely long version number" (c.skipN 9).mark)
        else if digits.isEmpty then .error (Error.within vctx start "did not find expected version number" c.mark)
        else .ok (digits.toNat?.getD 0, rest)
      let c := skipBlanks c
      let (major, c) ← number c
      if !c.is '.' then throw (Error.within vctx start "did not find expected digit or '.' character" c.mark)
      let (minor, c) ← number c.skip
      pure (TokenKind.versionDirective major minor, c)
    else if name == "TAG" then do
      let tctx := "while scanning a %TAG directive"
      let c := skipBlanks c
      let (handle, c) ← tagHandle true start c
      if !c.blankAt 0 then throw (Error.within tctx start "did not find expected whitespace" c.mark)
      let c := skipBlanks c
      let (pfx, c) ← tagUri true true "" start c
      if !c.blankOrEndAt 0 then throw (Error.within tctx start "did not find expected whitespace or line break" c.mark)
      pure (TokenKind.tagDirective handle pfx, c)
    else throw (Error.within ctx start "found unknown directive name" c.mark)
  let stop := c.mark
  let c := skipToLineEnd c
  if !c.atBreakOrEnd then throw (Error.within ctx start "did not find expected comment or line break" c.mark)
  let c := if c.breakAt 0 then c.skipLine else c
  pure (⟨kind, start, stop⟩, c)

end KeystrokeTally.Yaml
