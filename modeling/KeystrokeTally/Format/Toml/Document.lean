import KeystrokeTally.Format.Toml.Token
import KeystrokeTally.Decimal.Nearest
import KeystrokeTally.Text.Digits

namespace KeystrokeTally.Toml

/-- A scalar value. -/
inductive Scalar where
  | integer (i : Int)
  | float (x : Float)
  | boolean (b : Bool)
  | string (s : String)
  | datetime (text : String)
  deriving Repr, Inhabited

/-- A value of a TOML text, with the byte offset where it starts. -/
inductive Node where
  | scalar (v : Scalar) (start : Nat)
  | array (items : List Node) (start : Nat)
  | table (pairs : List (String × Node)) (dotted : Bool) (start : Nat)
  deriving Repr, Inhabited

def Node.start : Node → Nat
  | .scalar _ s | .array _ s | .table _ _ s => s

/-- A table of the text: where its header starts, its header keys, its pairs (none for the
root table before any pair), and whether it is an element of an array of tables. -/
structure Table where
  start : Nat
  header : List String
  values : Option (List (String × Node))
  array : Bool
  deriving Repr, Inhabited

def isRadixDigit (radix : Nat) (c : Char) : Bool :=
  match Text.digitValue c with
  | some d => d < radix
  | none => false

/-- Splits the text of a number, which starts at offset `start`, where a character can no
longer continue it: the part read, the rest, and the offset of the rest. Underscores must stand
between digits; a leading zero followed by digits is refused unless allowed. -/
def splitNumber (s : String) (allowSign allowLeadingZeros : Bool) (radix start : Nat) :
    Except Error (List Char × List Char × Nat) :=
  let invalid (o : Nat) : Except Error (List Char × List Char × Nat) := .error (Error.at o "invalid number")
  let rec go : List Char → List Char → Nat → Bool → Bool → Bool → Bool →
      Except Error (List Char × List Char × Nat)
    | [], acc, i, _, first, _, underscore =>
      if first || underscore then invalid start else .ok (acc.reverse, [], start + i)
    | c :: rest, acc, i, atFront, first, firstZero, underscore =>
      let o := start + i
      let i' := i + c.utf8Size
      if atFront && (c == '+' || c == '-') && allowSign then go rest (c :: acc) i' false first firstZero underscore
      else if c == '0' && first then go rest (c :: acc) i' false false true underscore
      else if isRadixDigit radix c then
        if !first && firstZero && !allowLeadingZeros then invalid o
        else go rest (c :: acc) i' false false firstZero false
      else if c == '_' && first then invalid o
      else if c == '_' && !underscore then go rest (c :: acc) i' false false firstZero true
      else if first || underscore then invalid start
      else .ok (acc.reverse, c :: rest, o)
  go s.toList [] 0 true true false false

def cleanDigits (cs : List Char) : String :=
  String.ofList ((cs.filter (· != '_')).dropWhile (· == '+'))

def readInteger (s : String) (radix start : Nat) : Except Error Int := do
  let (digits, rest, _) ← splitNumber s (radix == 10) (radix != 10) radix start
  if !rest.isEmpty then throw (Error.at start "invalid number")
  match Text.fromRadix (cleanDigits digits) radix true (-9223372036854775808) 9223372036854775807 with
  | some v => pure v
  | none => throw (Error.at start "invalid number")

def dottedKey (s : Scanner) : Except Error (List String × Scanner) := do
  let (k, s) ← s.key
  let s := s.skipBlanks
  let rec more : Nat → List String → Scanner → Except Error (List String × Scanner)
    | 0, acc, s => .ok (acc.reverse, s)
    | fuel + 1, acc, s => do
      let (ate, s) ← s.eat .period
      if !ate then pure (acc.reverse, s)
      else
        let (k, s) ← s.skipBlanks.key
        more fuel (k :: acc) s.skipBlanks
  more s.rest.length [k] s

/-- Adds a pair under a dotted key to the pairs of a table: the leading parts name tables made
by dotted keys, created when missing. -/
def addDotted : List String → Node → List (String × Node) → Except Error (List (String × Node))
  | [], _, pairs => .ok pairs
  | [k], v, pairs => .ok (pairs ++ [(k, v)])
  | k :: rest, v, pairs =>
    match pairs.findIdx? (·.1 == k) with
    | some i =>
      match pairs[i]? with
      | some (_, .table inner true st) => do
        let inner ← addDotted rest v inner
        pure (pairs.set i (k, .table inner true st))
      | some (_, other) => .error (Error.at other.start "dotted key attempted to extend non-table type")
      | none => .ok pairs
    | none => do
      let inner ← addDotted rest v []
      pure (pairs ++ [(k, .table inner true v.start)])

def datePart (start : Nat) (s : Scanner) : Except Error Scanner := do
  match ← s.next with
  | some (⟨.word _, _, _⟩, s) => pure s
  | _ => throw (Error.at start "invalid date")

/-- Reads the rest of a date or time whose first word, at `first`, has been read: a time after
a space, then minutes, seconds, a fraction and an offset. -/
def datetime (first : Scanner) (start : Nat) (colonEaten : Bool) (s : Scanner) : Except Error (Node × Scanner) := do
  let s ← match s.next with
    | .ok (some (⟨.blank " ", _, _⟩, s1)) =>
      match s1.next with
      | .ok (some (⟨.word _, _, _⟩, s2)) => pure s2
      | _ => pure s
    | _ => pure s
  let (timed, s) ← if colonEaten then pure (true, s) else s.eat .colon
  let s ← if !timed then pure s else do
    let s ← datePart start s
    let s ← s.expect .colon
    let s ← datePart start s
    let (ate, s) ← s.eat .period
    let s ← if ate then datePart start s else pure s
    let (ate, s) ← s.eat .plus
    let s ← if ate then datePart start s else pure s
    let (ate, s) ← s.eat .colon
    if ate then datePart start s else pure s
  pure (.scalar (.datetime (first.between s)) start, s)

/-- Reads a double whose integral part `s` starts at `start`, with the fraction `after` (and
its offset) when a point followed. -/
def readFloat (s : String) (start : Nat) (after : Option (String × Nat)) (sc : Scanner) :
    Except Error (Float × Scanner) := do
  let invalid : Error := Error.at start "invalid number"
  let (integral, suffix, sufStart) ← splitNumber s true false 10 start
  let (fraction, suffix, sufStart) ← match after with
    | some (a, aStart) =>
      if !suffix.isEmpty then throw invalid
      else do
        let (f, suf, so) ← splitNumber a false true 10 aStart
        pure (some f, suf, so)
    | none => pure (none, suffix, sufStart)
  let (exponent, sc) ← match suffix with
    | c :: more =>
      if c == 'e' || c == 'E' then do
        let (digits, rest, sc) ← if more.isEmpty then do
            let (_, sc) ← sc.eat .plus
            match ← sc.next with
            | some (⟨.word w, wStart, _⟩, sc) => do
              let (a, b, _) ← splitNumber w false true 10 wStart
              pure (a, b, sc)
            | _ => throw invalid
          else do
            let (a, b, _) ← splitNumber (String.ofList more) true true 10 (sufStart + 1)
            pure (a, b, sc)
        if !rest.isEmpty then throw invalid
        pure (some digits, sc)
      else throw invalid
    | [] => pure (none, sc)
  let text := cleanDigits integral ++
    (match fraction with | some f => "." ++ cleanDigits f | none => "") ++
    (match exponent with | some e => "E" ++ String.ofList (e.filter (· != '_')) | none => "")
  match Decimal.readFloat text with
  | some x => if x.isFinite then pure (x, sc) else throw invalid
  | none => throw invalid

def number (s : String) (start nodeStart : Nat) (sc : Scanner) : Except Error (Node × Scanner) := do
  if s.startsWith "0x" then pure (.scalar (.integer (← readInteger (s.drop 2).toString 16 (start + 2))) nodeStart, sc)
  else if s.startsWith "0o" then pure (.scalar (.integer (← readInteger (s.drop 2).toString 8 (start + 2))) nodeStart, sc)
  else if s.startsWith "0b" then pure (.scalar (.integer (← readInteger (s.drop 2).toString 2 (start + 2))) nodeStart, sc)
  else if s.toList.contains 'e' || s.toList.contains 'E' then do
    let (x, sc) ← readFloat s start none sc
    pure (.scalar (.float x) nodeStart, sc)
  else
    let (ate, sc) ← sc.eat .period
    if ate then
      let at_ := sc.offset
      match ← sc.next with
      | some (⟨.word after, aStart, _⟩, sc) => do
        let (x, sc) ← readFloat s start (some (after, aStart)) sc
        pure (.scalar (.float x) aStart, sc)
      | _ => throw (Error.at at_ "invalid number")
    else if s == "inf" then pure (.scalar (.float Decimal.infinity) nodeStart, sc)
    else if s == "-inf" then pure (.scalar (.float (-Decimal.infinity)) nodeStart, sc)
    else if s == "nan" then pure (.scalar (.float (0.0 / 0.0)) nodeStart, sc)
    else if s == "-nan" then pure (.scalar (.float (-(0.0 / 0.0))) nodeStart, sc)
    else pure (.scalar (.integer (← readInteger s 10 start)) nodeStart, sc)

def looksLikeDate (s : String) : Bool :=
  let cs := s.toList
  cs.contains 'T' || cs.contains 't' ||
    (cs.length > 1 && cs.tail.contains '-' && !((s.splitOn "e-").length > 1) && !((s.splitOn "E-").length > 1))

def numberOrDate (first : Scanner) (s : String) (start : Nat) (sc : Scanner) : Except Error (Node × Scanner) := do
  if looksLikeDate s then datetime first start false sc
  else
    let (ate, sc) ← sc.eat .colon
    if ate then datetime first start true sc else number s start start sc

mutual

def value : Nat → Scanner → Except Error (Node × Scanner)
  | 0, s => .error (Error.at s.offset "unexpected eof encountered")
  | d + 1, s => do
    let at_ := s.offset
    match ← s.next with
    | none => throw (Error.at s.endOffset "unexpected eof encountered")
    | some (sp, s1) =>
      match sp.token with
      | .string v _ => pure (.scalar (.string v) sp.start, s1)
      | .word "true" => pure (.scalar (.boolean true) sp.start, s1)
      | .word "false" => pure (.scalar (.boolean false) sp.start, s1)
      | .word w =>
        let numeric := match w.toList with
          | c :: _ => c == '-' || c.isDigit
          | [] => false
        if w == "inf" || w == "nan" || numeric then numberOrDate s w sp.start s1
        else throw (Error.at at_ "invalid TOML value, did you mean to use a quoted string?")
      | .plus =>
        let at2 := s1.offset
        match ← s1.next with
        | some (⟨.word w, _, _⟩, s2) => number w (at2) sp.start s2
        | _ => throw (Error.at at2 "invalid number")
      | .leftBrace => do
        let (pairs, s) ← inlineTable d [] true s1.skipBlanks
        pure (.table pairs false sp.start, s)
      | .leftBracket => do
        let (items, s) ← array d s1
        pure (.array items sp.start, s)
      | t => throw (Scanner.wanted at_ "a value" t.describe)

def inlineTable : Nat → List (String × Node) → Bool → Scanner → Except Error (List (String × Node) × Scanner)
  | 0, pairs, _, s => .ok (pairs, s)
  | d + 1, pairs, first, s => do
    if first then
      let (closed, s1) ← s.eat .rightBrace
      if closed then return (pairs, s1)
    let (keys, s) ← dottedKey s
    let s ← s.skipBlanks.expect .equals
    let (v, s) ← value d s.skipBlanks
    let pairs ← addDotted keys v pairs
    let s := s.skipBlanks
    let (closed, s) ← s.eat .rightBrace
    if closed then pure (pairs, s)
    else
      let s ← s.expect .comma
      inlineTable d pairs false s.skipBlanks

def array : Nat → Scanner → Except Error (List Node × Scanner)
  | 0, s => .ok ([], s)
  | d + 1, s => do
    let s ← gap d s
    let (closed, s1) ← s.eat .rightBracket
    if closed then return ([], s1)
    let (v, s) ← value d s
    let s ← gap d s
    let (comma, s) ← s.eat .comma
    if comma then
      let (vs, s) ← array d s
      pure (v :: vs, s)
    else
      let s ← gap d s
      let s ← s.expect .rightBracket
      pure ([v], s)

def gap : Nat → Scanner → Except Error Scanner
  | 0, s => .ok s
  | d + 1, s => do
    let s := s.skipBlanks
    let (nl, s) ← s.eat .newline
    if nl then gap d s
    else
      let (c, s) ← s.eatComment
      if c then gap d s else pure s

end

/-- One line of the text: a table header, or a key/value pair. -/
inductive Line where
  | header (start : Nat) (keys : List String) (array : Bool)
  | pair (keys : List String) (v : Node)

/-- Reads the keys of a table header after its brackets, with the scanner `h` reading the
header while the text goes on after its line. -/
def headerKeys (array : Bool) (h : Scanner) : Except Error (List String) := do
  let (k, h) ← h.skipBlanks.key
  let rec more : Nat → List String → Scanner → Except Error (List String)
    | 0, acc, _ => .ok acc.reverse
    | fuel + 1, acc, h => do
      let h := h.skipBlanks
      let (dot, h) ← h.eat .period
      if dot then
        let (k, h) ← h.skipBlanks.key
        more fuel (k :: acc) h
      else
        let h ← h.expect .rightBracket
        let h ← if array then h.expect .rightBracket else pure h
        let h := h.skipBlanks
        let (c, h) ← h.eatComment
        if !c then
          let _ ← h.newlineOrEnd
        pure acc.reverse
  more h.rest.length [k] h

def line (s : Scanner) : Except Error (Option (Line × Scanner)) := do
  let rec skip : Nat → Scanner → Except Error Scanner
    | 0, s => .ok s
    | fuel + 1, s => do
      let s := s.skipBlanks
      let (c, s) ← s.eatComment
      if c then skip fuel s
      else
        let (nl, s) ← s.eat .newline
        if nl then skip fuel s else pure s
  let s ← skip (s.rest.length + 1) s
  match ← s.peek with
  | none => pure none
  | some ⟨.leftBracket, _, _⟩ =>
    let start := s.offset
    let s ← s.expect .leftBracket
    let (array, s) ← s.eat .leftBracket
    let keys ← headerKeys array s
    pure (some (.header start keys array, s.skipLine))
  | some _ =>
    let (keys, s) ← dottedKey s
    let s ← s.skipBlanks.expect .equals
    let (v, s) ← value (2 * s.rest.length + 4) s.skipBlanks
    let s := s.skipBlanks
    let (c, s) ← s.eatComment
    let s ← if c then pure s else s.newlineOrEnd
    pure (some (.pair keys v, s))

def tables (text : String) : Except Error (Array Table) :=
  let rec go : Nat → Array Table → Table → Scanner → Except Error (Array Table)
    | 0, done, cur, _ => .ok (if !cur.header.isEmpty || cur.values.isSome then done.push cur else done)
    | fuel + 1, done, cur, s => do
      match ← line s with
      | none => pure (if !cur.header.isEmpty || cur.values.isSome then done.push cur else done)
      | some (.header start keys array, s) =>
        let done := if !cur.header.isEmpty || cur.values.isSome then done.push cur else done
        go fuel done { start, header := keys, values := some [], array } s
      | some (.pair keys v, s) =>
        let values ← addDotted keys v (cur.values.getD [])
        go fuel done { cur with values := some values } s
  let s := Scanner.start text
  go (s.rest.length + 1) #[] { start := 0, header := [], values := none, array := false } s

end KeystrokeTally.Toml
