import KeystrokeTally.Format.Yaml.Token.Scalar

namespace KeystrokeTally.Yaml

/-- A place where a simple key may start. -/
structure SimpleKey where
  possible : Bool := false
  required : Bool := false
  tokenNumber : Nat := 0
  mark : Mark := {}
  deriving Inhabited

/-- The state of reading tokens. -/
structure Lexer where
  cursor : Cursor
  started : Bool := false
  flowLevel : Nat := 0
  queue : List Token := []
  taken : Nat := 0
  indent : Int := -1
  indents : List Int := []
  simpleKeyAllowed : Bool := false
  simpleKeys : List SimpleKey := []
  deriving Inhabited

def insertAt {α : Type} : Nat → α → List α → List α
  | 0, t, l => t :: l
  | _ + 1, t, [] => [t]
  | n + 1, t, x :: xs => x :: insertAt n t xs

namespace Lexer

/-- A lexer at the start of a text. A byte order mark at the very start is dropped; a
character that YAML does not allow anywhere in the text is an error. -/
def start (text : String) : Except Error Lexer :=
  let cs := text.toList
  let (cs, offset0) := match cs with
    | c :: rest => if c.toNat == 0xFEFF then (rest, 3) else (cs, 0)
    | [] => (cs, 0)
  let rec check : List Char → Nat → Except Error Unit
    | [], _ => .ok ()
    | c :: rest, offset =>
      if isAllowed c then check rest (offset + c.utf8Size)
      else .error { problem := "control characters are not allowed", offset }
  match check cs offset0 with
  | .error e => .error e
  | .ok () => .ok { cursor := ⟨cs, {}⟩ }

def push (lx : Lexer) (kind : TokenKind) (start stop : Mark) : Lexer :=
  { lx with queue := lx.queue ++ [⟨kind, start, stop⟩] }

def nextNumber (lx : Lexer) : Nat := lx.taken + lx.queue.length

def topKey (lx : Lexer) : SimpleKey := lx.simpleKeys.head?.getD {}

def setTopKey (lx : Lexer) (k : SimpleKey) : Lexer :=
  { lx with simpleKeys := match lx.simpleKeys with
    | [] => [k]
    | _ :: rest => k :: rest }

def keyError (lx : Lexer) (k : SimpleKey) : Error :=
  Error.within "while scanning a simple key" k.mark "could not find expected ':'" lx.cursor.mark

/-- Drops candidates that can no longer be keys: those on an earlier line, or more than 1024
bytes back. A required one is an error. -/
def staleKeys (lx : Lexer) : Except Error Lexer := do
  let here := lx.cursor.mark
  let keys ← lx.simpleKeys.mapM fun k =>
    if k.possible && (k.mark.line < here.line || k.mark.index + 1024 < here.index) then
      if k.required then .error (lx.keyError k) else .ok { k with possible := false }
    else .ok k
  pure { lx with simpleKeys := keys }

def removeKey (lx : Lexer) : Except Error Lexer :=
  let k := lx.topKey
  if k.possible && k.required then .error (lx.keyError k)
  else .ok (lx.setTopKey { k with possible := false })

def saveKey (lx : Lexer) : Except Error Lexer := do
  if !lx.simpleKeyAllowed then return lx
  let here := lx.cursor.mark
  let required := lx.flowLevel == 0 && lx.indent == (here.column : Int)
  let key : SimpleKey := { possible := true, required, tokenNumber := lx.nextNumber, mark := here }
  let lx ← lx.removeKey
  pure (lx.setTopKey key)

def increaseFlow (lx : Lexer) : Lexer :=
  { lx with simpleKeys := {} :: lx.simpleKeys, flowLevel := lx.flowLevel + 1 }

def decreaseFlow (lx : Lexer) : Lexer :=
  if lx.flowLevel == 0 then lx
  else { lx with flowLevel := lx.flowLevel - 1, simpleKeys := lx.simpleKeys.drop 1 }

/-- Opens a block at `column` when it is deeper than the current one, with a token of `kind`
put at token number `number` (or appended). -/
def rollIndent (lx : Lexer) (column : Nat) (number : Option Nat) (kind : TokenKind) (mark : Mark) : Lexer :=
  if lx.flowLevel > 0 || lx.indent ≥ (column : Int) then lx
  else
    let t : Token := ⟨kind, mark, mark⟩
    let queue := match number with
      | some n => insertAt (n - lx.taken) t lx.queue
      | none => lx.queue ++ [t]
    { lx with indents := lx.indent :: lx.indents, indent := column, queue }

def unrollIndent (lx : Lexer) (column : Int) : Lexer :=
  let rec go : Nat → Lexer → Lexer
    | 0, lx => lx
    | fuel + 1, lx =>
      if lx.indent > column then
        let lx := lx.push .blockEnd lx.cursor.mark lx.cursor.mark
        go fuel { lx with indent := lx.indents.head?.getD (-1), indents := lx.indents.drop 1 }
      else lx
  if lx.flowLevel > 0 then lx else go (lx.indents.length + 1) lx

/-- Skips blanks, comments and line breaks before the next token. A byte order mark may start a
line; a tab is skipped only inside a flow collection or where no simple key may start. A line
break in a block lets a simple key start again. -/
def skipToToken (lx : Lexer) : Lexer :=
  let rec go : Nat → Lexer → Lexer
    | 0, lx => lx
    | fuel + 1, lx =>
      let c := lx.cursor
      let c := if c.mark.column == 0 && c.peek == some (Char.ofNat 0xFEFF) then c.skip else c
      let c := skipSpaces (c.rest.length + 1) (lx.flowLevel > 0 || !lx.simpleKeyAllowed) c
      let c := if c.is '#' then skipComment c else c
      if c.breakAt 0 then
        go fuel { lx with cursor := c.skipLine, simpleKeyAllowed := lx.simpleKeyAllowed || lx.flowLevel == 0 }
      else { lx with cursor := c }
  go (lx.cursor.rest.length + 1) lx
where
  skipSpaces : Nat → Bool → Cursor → Cursor
    | 0, _, c => c
    | fuel + 1, tabs, c => if c.is ' ' || (tabs && c.is '\t') then skipSpaces fuel tabs c.skip else c

def indicator (lx : Lexer) (kind : TokenKind) : Lexer :=
  let start := lx.cursor.mark
  let c := lx.cursor.skip
  { lx with cursor := c }.push kind start c.mark

def streamStart (lx : Lexer) : Lexer :=
  let m := lx.cursor.mark
  { lx with started := true, indent := -1, simpleKeys := [{}], simpleKeyAllowed := true }.push .streamStart m m

def streamEnd (lx : Lexer) : Except Error Lexer := do
  let c := lx.cursor
  let c := if c.mark.column != 0 then { c with mark := { c.mark with column := 0, line := c.mark.line + 1 } } else c
  let lx := ({ lx with cursor := c }).unrollIndent (-1)
  let lx ← lx.removeKey
  let lx := { lx with simpleKeyAllowed := false }
  pure (lx.push .streamEnd c.mark c.mark)

def directive (lx : Lexer) : Except Error Lexer := do
  let lx := lx.unrollIndent (-1)
  let lx ← lx.removeKey
  let lx := { lx with simpleKeyAllowed := false }
  let (t, c) ← scanDirective lx.cursor
  pure { lx with cursor := c, queue := lx.queue ++ [t] }

def documentMarker (lx : Lexer) (kind : TokenKind) : Except Error Lexer := do
  let lx := lx.unrollIndent (-1)
  let lx ← lx.removeKey
  let start := lx.cursor.mark
  let c := lx.cursor.skipN 3
  pure ({ lx with simpleKeyAllowed := false, cursor := c }.push kind start c.mark)

def flowStart (lx : Lexer) (kind : TokenKind) : Except Error Lexer := do
  let lx ← lx.saveKey
  let lx := lx.increaseFlow
  pure ({ lx with simpleKeyAllowed := true }.indicator kind)

def flowEnd (lx : Lexer) (kind : TokenKind) : Except Error Lexer := do
  let lx ← lx.removeKey
  let lx := lx.decreaseFlow
  pure ({ lx with simpleKeyAllowed := false }.indicator kind)

def flowEntry (lx : Lexer) : Except Error Lexer := do
  let lx ← lx.removeKey
  pure ({ lx with simpleKeyAllowed := true }.indicator .flowEntry)

/-- `-` before a blank. In a block it must stand where a key could, and opens a block sequence
at its column. -/
def blockEntry (lx : Lexer) : Except Error Lexer := do
  let here := lx.cursor.mark
  let lx ←
    if lx.flowLevel == 0 then
      if !lx.simpleKeyAllowed then
        throw { problem := "block sequence entries are not allowed in this context", mark := here }
      else pure (lx.rollIndent here.column none .blockSequenceStart here)
    else pure lx
  let lx ← lx.removeKey
  pure ({ lx with simpleKeyAllowed := true }.indicator .blockEntry)

/-- `?`, a complex key. In a block it must stand where a key could, and opens a block mapping
at its column. -/
def complexKey (lx : Lexer) : Except Error Lexer := do
  let here := lx.cursor.mark
  let lx ←
    if lx.flowLevel == 0 then
      if !lx.simpleKeyAllowed then
        throw { problem := "mapping keys are not allowed in this context", mark := here }
      else pure (lx.rollIndent here.column none .blockMappingStart here)
    else pure lx
  let lx ← lx.removeKey
  pure ({ lx with simpleKeyAllowed := lx.flowLevel == 0 }.indicator .key)

/-- `:`, a value. After a candidate simple key it makes the candidate a key; otherwise it
follows a complex key, and in a block must stand where a key could. -/
def value (lx : Lexer) : Except Error Lexer := do
  let k := lx.topKey
  let here := lx.cursor.mark
  let lx ←
    if k.possible then
      let t : Token := ⟨.key, k.mark, k.mark⟩
      let lx := { lx with queue := insertAt (k.tokenNumber - lx.taken) t lx.queue }
      let lx := lx.rollIndent k.mark.column (some k.tokenNumber) .blockMappingStart k.mark
      pure ({ lx.setTopKey { k with possible := false } with simpleKeyAllowed := false })
    else if lx.flowLevel == 0 then
      if !lx.simpleKeyAllowed then
        throw { problem := "mapping values are not allowed in this context", mark := here }
      else
        let lx := lx.rollIndent here.column none .blockMappingStart here
        pure { lx with simpleKeyAllowed := true }
    else pure { lx with simpleKeyAllowed := false }
  pure (lx.indicator .value)

/-- A token that may be a simple key and after which none may start: anchor, alias, tag,
quoted scalar. -/
def keyCandidate (lx : Lexer) (read : Cursor → Except Error (Token × Cursor)) : Except Error Lexer := do
  let lx ← lx.saveKey
  let (t, c) ← read lx.cursor
  pure { lx with simpleKeyAllowed := false, cursor := c, queue := lx.queue ++ [t] }

def blockScalar (lx : Lexer) (literal : Bool) : Except Error Lexer := do
  let lx ← lx.removeKey
  let (t, c) ← scanBlock literal lx.indent lx.cursor
  pure { lx with simpleKeyAllowed := true, cursor := c, queue := lx.queue ++ [t] }

def plainScalar (lx : Lexer) : Except Error Lexer := do
  let lx ← lx.saveKey
  let (t, broken, c) ← scanPlain lx.flowLevel lx.indent lx.cursor
  pure { lx with simpleKeyAllowed := broken, cursor := c, queue := lx.queue ++ [t] }

/-- Whether a plain scalar may start here: at any character that is not blank and not an
indicator, or at `-` before a non-blank, or (in a block) at `?` or `:` before a non-blank. -/
def plainStarts (lx : Lexer) (ch : Char) : Bool :=
  let c := lx.cursor
  !(isBlank ch || isBreak ch || "-?:,[]\x7b\x7d#&*!|>'\"%@`".contains ch) ||
    (ch == '-' && !c.blankAt 1) ||
    (lx.flowLevel == 0 && (ch == '?' || ch == ':') && !c.blankOrEndAt 1)

def fetch (lx : Lexer) : Except Error Lexer := do
  if !lx.started then return lx.streamStart
  let lx := lx.skipToToken
  let lx ← lx.staleKeys
  let lx := lx.unrollIndent lx.cursor.mark.column
  let c := lx.cursor
  match c.peek with
  | none => lx.streamEnd
  | some ch =>
    if c.mark.column == 0 && ch == '%' then lx.directive
    else if c.mark.column == 0 && c.isAt 0 '-' && c.isAt 1 '-' && c.isAt 2 '-' && c.blankOrEndAt 3 then
      lx.documentMarker .documentStart
    else if c.mark.column == 0 && c.isAt 0 '.' && c.isAt 1 '.' && c.isAt 2 '.' && c.blankOrEndAt 3 then
      lx.documentMarker .documentEnd
    else if ch == '[' then lx.flowStart .flowSequenceStart
    else if ch == '\x7b' then lx.flowStart .flowMappingStart
    else if ch == ']' then lx.flowEnd .flowSequenceEnd
    else if ch == '\x7d' then lx.flowEnd .flowMappingEnd
    else if ch == ',' then lx.flowEntry
    else if ch == '-' && c.blankOrEndAt 1 then lx.blockEntry
    else if ch == '?' && (lx.flowLevel > 0 || c.blankOrEndAt 1) then lx.complexKey
    else if ch == ':' && (lx.flowLevel > 0 || c.blankOrEndAt 1) then lx.value
    else if ch == '*' then lx.keyCandidate (scanAnchor true)
    else if ch == '&' then lx.keyCandidate (scanAnchor false)
    else if ch == '!' then lx.keyCandidate (scanTag lx.flowLevel)
    else if ch == '|' && lx.flowLevel == 0 then lx.blockScalar true
    else if ch == '>' && lx.flowLevel == 0 then lx.blockScalar false
    else if ch == '\'' then lx.keyCandidate (scanQuoted true)
    else if ch == '"' then lx.keyCandidate (scanQuoted false)
    else if lx.plainStarts ch then lx.plainScalar
    else throw (Error.within "while scanning for the next token" c.mark "found character that cannot start any token" c.mark)

/-- Whether the head of the queue is settled: the queue is not empty and no candidate simple
key starts at it. -/
def settled (lx : Lexer) : Bool :=
  !lx.queue.isEmpty && !lx.simpleKeys.any fun k => k.possible && k.tokenNumber == lx.taken

def fill (lx : Lexer) : Except Error Lexer :=
  let rec go : Nat → Lexer → Except Error Lexer
    | 0, lx => .ok lx
    | fuel + 1, lx => do
      let lx ← if lx.queue.isEmpty then pure lx else lx.staleKeys
      if lx.settled then return lx
      go fuel (← lx.fetch)
  go (2 * lx.cursor.rest.length + 4) lx

def peek (lx : Lexer) : Except Error (Token × Lexer) := do
  let lx ← lx.fill
  match lx.queue with
  | t :: _ => pure (t, lx)
  | [] => throw { problem := "did not find expected <stream-end>", mark := lx.cursor.mark }

def take (lx : Lexer) : Lexer :=
  { lx with queue := lx.queue.drop 1, taken := lx.taken + 1 }

end Lexer

end KeystrokeTally.Yaml
