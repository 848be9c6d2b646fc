import KeystrokeTally.Config.Schema
import KeystrokeTally.Format.Json.Reader

namespace KeystrokeTally.Config.JsonFile

open Json (Cursor Error Number readNumber readString readWord)

def unplaced (message : String) : Error := ⟨message, 0, 0⟩

def placeAt (c : Cursor) (e : Error) : Error :=
  if e.line == 0 then ⟨e.message, c.line, c.column⟩ else e

def errorAhead (c : Cursor) (message : String) : Error :=
  match (c.failAhead message : Except Error Unit) with
  | .error e => e
  | .ok _ => unplaced message

def numberUnexpected : Number → Unexpected
  | .nat n => .unsigned n
  | .neg i => .signed i
  | .float x => .float x

def closeObject (c : Cursor) : Cursor :=
  let c := c.skipBlank
  if c.peek == some '}' then c.advance else c

/-- The cursor after the end of an array: blanks, then its closing bracket, or a comma and the
blanks after it. -/
def closeArray (c : Cursor) : Cursor :=
  let c := c.skipBlank
  match c.peek with
  | some ']' => c.advance
  | some ',' => c.advance.skipBlank
  | _ => c

def endArray (c : Cursor) : Except Error Cursor :=
  let c := c.skipBlank
  match c.peek with
  | some ']' => .ok c.advance
  | some ',' =>
    let c := c.advance.skipBlank
    if c.peek == some ']' then c.failAhead "trailing comma" else c.failAhead "trailing characters"
  | some _ => c.failAhead "trailing characters"
  | none => c.failAhead "EOF while parsing a list"

/-- The diagnostic of a value refused by a reader expecting `expecting`: the value is read
(unless it is an array or object) and the diagnostic placed after it. -/
def mismatchAt (c : Cursor) (expecting : String) : Error :=
  let refuse (u : Unexpected) (c : Cursor) : Error := placeAt c (unplaced (invalidType true u expecting))
  match c.peek with
  | some 'n' => match readWord ['u', 'l', 'l'] c.advance with
    | .error e => e
    | .ok c => refuse .unit c
  | some 't' => match readWord ['r', 'u', 'e'] c.advance with
    | .error e => e
    | .ok c => refuse (.bool true) c
  | some 'f' => match readWord ['a', 'l', 's', 'e'] c.advance with
    | .error e => e
    | .ok c => refuse (.bool false) c
  | some '-' => match readNumber true c.advance with
    | .error e => e
    | .ok (n, c) => refuse (numberUnexpected n) c
  | some '"' => match readString c.advance with
    | .error e => e
    | .ok (s, c) => refuse (.str s) c
  | some '[' => refuse .seq c
  | some '{' => refuse .map c
  | some d =>
    if d.isDigit then
      match readNumber false c with
      | .error e => e
      | .ok (n, c) => refuse (numberUnexpected n) c
    else errorAhead c "expected value"
  | none => errorAhead c "expected value"

/-- Skips the rest of a string after its opening quote, checking only escapes and control
characters. -/
def skipString : Nat → Cursor → Except Error Cursor
  | 0, c => .ok c
  | fuel + 1, c =>
    match c.peek with
    | none => c.fail "EOF while parsing a string"
    | some '"' => .ok c.advance
    | some '\\' =>
      let c := c.advance
      match c.peek with
      | none => c.fail "EOF while parsing a string"
      | some e =>
        if e == '"' || e == '\\' || e == '/' || e == 'b' || e == 'f' || e == 'n' || e == 'r' || e == 't' then
          skipString fuel c.advance
        else if e == 'u' then do
          let (_, c) ← Json.readHex4 c.advance
          skipString fuel c
        else c.advance.fail "invalid escape"
    | some ch =>
      if ch.toNat < 0x20 then c.fail "control character (\\u0000-\\u001F) found while parsing a string"
      else skipString fuel c.advance

def skipExponent (c : Cursor) : Except Error Cursor :=
  let c := c.advance
  let c := match c.peek with
    | some '+' | some '-' => c.advance
    | _ => c
  match c.peek with
  | some d => if d.isDigit then .ok (Json.skipDigits c.rest.length c.advance) else c.advance.fail "invalid number"
  | none => c.fail "invalid number"

def skipNumber (c : Cursor) : Except Error Cursor := do
  let c ← match c.peek with
    | some '0' =>
      let c := c.advance
      match c.peek with
      | some d => if d.isDigit then c.failAhead "invalid number" else pure c
      | none => pure c
    | some d =>
      if d.isDigit then pure (Json.skipDigits c.rest.length c.advance) else c.advance.fail "invalid number"
    | none => c.fail "invalid number"
  match c.peek with
  | some '.' =>
    let c := c.advance
    let c' := Json.skipDigits c.rest.length c
    if c'.rest.length == c.rest.length then c'.failAhead "invalid number"
    else match c'.peek with
      | some 'e' | some 'E' => skipExponent c'
      | _ => pure c'
  | some 'e' | some 'E' => skipExponent c
  | _ => pure c

/-- After a value inside the containers `stack` (innermost first): closes the containers that
end here and reads up to the next value, past a comma and, in an object, the next key and its
colon. An empty stack left means the skipped value has ended. -/
def skipBetween : Nat → Bool → List Char → Cursor → Except Error (List Char × Cursor)
  | 0, _, stack, c => .ok (stack, c)
  | fuel + 1, acceptComma, stack, c =>
    match stack with
    | [] => .ok ([], c)
    | frame :: outer =>
      let c := c.skipBlank
      let key (c : Cursor) : Except Error (List Char × Cursor) :=
        if frame == '{' then do
          let c := c.skipBlank
          let c ← match c.peek with
            | some '"' => skipString c.rest.length c.advance
            | some _ => c.failAhead "key must be a string"
            | none => c.failAhead "EOF while parsing an object"
          let c := c.skipBlank
          match c.peek with
          | some ':' => pure (stack, c.advance)
          | some _ => c.failAhead "expected `:`"
          | none => c.failAhead "EOF while parsing an object"
        else .ok (stack, c)
      match c.peek with
      | some ',' => if acceptComma then key c.advance else key c
      | some ch =>
        if (ch == ']' && frame == '[') || (ch == '}' && frame == '{') then
          if outer.isEmpty then .ok ([], c.advance) else skipBetween fuel true outer c.advance
        else if acceptComma then
          c.failAhead (if frame == '[' then "expected `,` or `]`" else "expected `,` or `\x7d`")
        else key c
      | none => c.failAhead (if frame == '[' then "EOF while parsing a list" else "EOF while parsing an object")

def skipValue : Nat → List Char → Cursor → Except Error Cursor
  | 0, _, c => .ok c
  | fuel + 1, stack, c => do
    let c := c.skipBlank
    let after (c : Cursor) : Except Error Cursor := do
      if stack.isEmpty then pure c
      else
        let (stack, c) ← skipBetween c.rest.length true stack c
        if stack.isEmpty then pure c else skipValue fuel stack c
    match c.peek with
    | none => c.failAhead "EOF while parsing a value"
    | some 'n' => after (← readWord ['u', 'l', 'l'] c.advance)
    | some 't' => after (← readWord ['r', 'u', 'e'] c.advance)
    | some 'f' => after (← readWord ['a', 'l', 's', 'e'] c.advance)
    | some '-' => after (← skipNumber c.advance)
    | some '"' => after (← skipString c.rest.length c.advance)
    | some ch =>
      if ch == '[' || ch == '{' then do
        let (stack, c) ← skipBetween c.rest.length false (ch :: stack) c.advance
        if stack.isEmpty then pure c else skipValue fuel stack c
      else if ch.isDigit then after (← skipNumber c)
      else c.failAhead "expected value"

def nextElement (first : Bool) (c : Cursor) : Except Error (Option Cursor) :=
  let c := c.skipBlank
  match c.peek with
  | some ']' => .ok none
  | some ',' =>
    if first then .ok (some c)
    else
      let c := c.advance.skipBlank
      match c.peek with
      | some ']' => c.failAhead "trailing comma"
      | some _ => .ok (some c)
      | none => c.failAhead "EOF while parsing a value"
  | some _ => if first then .ok (some c) else c.failAhead "expected `,` or `]`"
  | none => c.failAhead "EOF while parsing a list"

def nextKey (first : Bool) (c : Cursor) : Except Error (Option (String × Cursor)) := do
  let c := c.skipBlank
  let c ← match c.peek with
    | some '}' => return none
    | some ',' => if first then pure c else pure c.advance.skipBlank
    | some _ => if first then pure c else c.failAhead "expected `,` or `\x7d`"
    | none => c.failAhead "EOF while parsing an object"
  match c.peek with
  | some '"' => do let (k, c) ← readString c.advance; pure (some (k, c))
  | some '}' => c.failAhead "trailing comma"
  | some _ => c.failAhead "key must be a string"
  | none => c.failAhead "EOF while parsing a value"

def colon (c : Cursor) : Except Error Cursor :=
  let c := c.skipBlank
  match c.peek with
  | some ':' => .ok c.advance
  | some _ => c.failAhead "expected `:`"
  | none => c.failAhead "EOF while parsing an object"

def readInteger (s : Shape) (ch : Char) (c : Cursor) : Except Error (Value × Cursor) :=
  let number : Option (Except Error (Number × Cursor)) :=
    if ch == '-' then some (readNumber true c.advance)
    else if ch.isDigit then some (readNumber false c)
    else none
  match number with
  | none => .error (mismatchAt c s.expecting)
  | some r => do
    let (n, c) ← r
    match Shape.ofScalar true s (numberUnexpected n) with
    | .ok v => pure (v, c)
    | .error m => .error (placeAt c (unplaced m))

mutual

/-- Reads a value of shape `s`. Every reader takes one unit of the fuel `n` per call; the
fuel given is more than the calls a text can take. -/
def readShape : Nat → Shape → Cursor → Except Error (Value × Cursor)
  | 0, _, c => c.fail "recursion limit exceeded"
  | n + 1, s, c =>
    let c := c.skipBlank
    match s, c.peek with
    | .option _, some 'n' => do
      let c ← readWord ['u', 'l', 'l'] c.advance
      pure (.none, c)
    | .option s, _ => do
      let (v, c) ← readShape n s c
      pure (.some v, c)
    | _, none => c.failAhead "EOF while parsing a value"
    | .i64, some ch => readInteger .i64 ch c
    | .u64, some ch => readInteger .u64 ch c
    | .bool, some 't' => do let c ← readWord ['r', 'u', 'e'] c.advance; pure (.bool true, c)
    | .bool, some 'f' => do let c ← readWord ['a', 'l', 's', 'e'] c.advance; pure (.bool false, c)
    | .text, some '"' => do let (t, c) ← readString c.advance; pure (.text t, c)
    | .path, some '"' => do let (t, c) ← readString c.advance; pure (.text t, c)
    | .list s, some '[' => do
      let (vs, c) ← readElements n s true c.advance
      let c ← endArray c
      pure (.list vs, c)
    | .record r, some '{' => do
      let (given, c) ← readMembers n r true [] c.advance
      match r.complete given with
      | .ok v => pure (v, closeObject c)
      | .error m => .error (placeAt (closeObject c) (unplaced m))
    | .record r, some '[' => do
      let (fields, c) ← readFields n r true 0 r.fields c.advance
      let c ← endArray c
      pure (.record fields, c)
    | s, _ => .error (mismatchAt c s.expecting)

def readElements : Nat → Shape → Bool → Cursor → Except Error (List Value × Cursor)
  | 0, _, _, c => .ok ([], c)
  | n + 1, s, first, c => do
    match ← nextElement first c with
    | none => pure ([], c.skipBlank)
    | some c =>
      let (v, c) ← readShape n s c
      let (vs, c) ← readElements n s false c
      pure (v :: vs, c)

/-- Reads the members of an object as fields of a record, up to its end; `given` holds the
fields read so far. -/
def readMembers : Nat → Record → Bool → List (String × Value) → Cursor →
    Except Error (List (String × Value) × Cursor)
  | 0, _, _, given, c => .ok (given, c)
  | n + 1, r, first, given, c => do
    match ← nextKey first c with
    | none => pure (given, c.skipBlank)
    | some (key, c) =>
      match r.field? key with
      | none =>
        let c ← colon c
        let c ← skipValue c.rest.length [] c
        readMembers n r false given c
      | some f =>
        if given.any (·.1 == f.name) then .error (placeAt (closeObject c) (unplaced (duplicateField f.name)))
        else
          let c ← colon c
          let (v, c) ← readShape n f.shape c
          readMembers n r false (given ++ [(f.name, v)]) c

def readFields : Nat → Record → Bool → Nat → List Field → Cursor →
    Except Error (List (String × Value) × Cursor)
  | _, _, _, _, [], c => .ok ([], c)
  | 0, _, _, _, _ :: _, c => .ok ([], c)
  | n + 1, r, first, i, f :: fs, c => do
    match ← nextElement first c with
    | none =>
      match f.missingElement with
      | some v => do
        let (rest, c) ← readFields n r first (i + 1) fs c
        pure ((f.name, v) :: rest, c)
      | none => .error (placeAt (closeArray c) (unplaced (invalidLength i r.expectingElements)))
    | some c =>
      let (v, c) ← readShape n f.shape c
      let (rest, c) ← readFields n r false (i + 1) fs c
      pure ((f.name, v) :: rest, c)

end

def read (text : String) : Except Error Value := do
  let (v, c) ← readShape (4 * text.length + 64) (.record .settings) (Cursor.start text)
  let c := c.skipBlank
  match c.peek with
  | none => pure v
  | some _ => c.failAhead "trailing characters"

end KeystrokeTally.Config.JsonFile
