import KeystrokeTally.Format.Json.Value
import KeystrokeTally.Decimal.Nearest

namespace KeystrokeTally.Json

/-- Why a text is not JSON, and where that was found (line 0 when the place is unknown). -/
structure Error where
  message : String
  line : Nat
  column : Nat
  deriving Repr

def Error.render (e : Error) : String :=
  if e.line == 0 then e.message
  else e.message ++ " at line " ++ toString e.line ++ " column " ++ toString e.column

/-- Text still to read, with the line and byte column of the position before it. -/
structure Cursor where
  rest : List Char
  line : Nat
  column : Nat

namespace Cursor

def start (s : String) : Cursor := ⟨s.toList, 1, 0⟩

def advance (c : Cursor) : Cursor :=
  match c.rest with
  | [] => c
  | ch :: rest =>
    if ch == '\n' then ⟨rest, c.line + 1, 0⟩ else ⟨rest, c.line, c.column + ch.utf8Size⟩

def peek (c : Cursor) : Option Char := c.rest.head?

def fail {α : Type} (c : Cursor) (message : String) : Except Error α :=
  .error ⟨message, c.line, c.column⟩

def failAhead {α : Type} (c : Cursor) (message : String) : Except Error α :=
  match c.rest with
  | [] => .error ⟨message, c.line, c.column⟩
  | ch :: _ =>
    if ch == '\n' then .error ⟨message, c.line + 1, 0⟩ else .error ⟨message, c.line, c.column + 1⟩

def skipBlank (c : Cursor) : Cursor :=
  let rec go : Nat → Cursor → Cursor
    | 0, c => c
    | fuel + 1, c =>
      match c.peek with
      | some ' ' | some '\t' | some '\n' | some '\r' => go fuel c.advance
      | _ => c
  go c.rest.length c

end Cursor

def hexValue (c : Char) : Option Nat :=
  if '0' ≤ c && c ≤ '9' then some (c.toNat - '0'.toNat)
  else if 'a' ≤ c && c ≤ 'f' then some (c.toNat - 'a'.toNat + 10)
  else if 'A' ≤ c && c ≤ 'F' then some (c.toNat - 'A'.toNat + 10)
  else none

def advanceBytes (c : Cursor) : Nat → Cursor
  | 0 => c
  | n + 1 =>
    match c.rest with
    | [] => c
    | ch :: _ =>
      if ch.utf8Size ≤ n + 1 then advanceBytes c.advance (n + 1 - ch.utf8Size)
      else { c with column := c.column + n + 1 }
termination_by n => n
decreasing_by have := Char.utf8Size_pos ch; omega

/-- Reads the four bytes of a unicode escape as hex digits. All four are consumed before they
are checked; fewer than four left is the end of the text. -/
def readHex4 (c : Cursor) : Except Error (Nat × Cursor) :=
  let bytes := c.rest.foldl (fun n ch => n + ch.utf8Size) 0
  if bytes < 4 then (advanceBytes c bytes).fail "EOF while parsing a string"
  else
    match c.rest with
    | a :: b :: d :: e :: _ =>
      let c4 := advanceBytes c 4
      match hexValue a, hexValue b, hexValue d, hexValue e with
      | some x, some y, some z, some w => .ok (((x * 16 + y) * 16 + z) * 16 + w, c4)
      | _, _, _, _ => c4.fail "invalid escape"
    | _ => (advanceBytes c 4).fail "invalid escape"

def readStringBody : Nat → List Char → Cursor → Except Error (String × Cursor)
  | 0, _, c => c.fail "EOF while parsing a string"
  | fuel + 1, acc, c =>
    match c.peek with
    | none => c.fail "EOF while parsing a string"
    | some '"' => .ok (String.ofList acc.reverse, c.advance)
    | some '\\' =>
      let c := c.advance
      match c.peek with
      | none => c.fail "EOF while parsing a string"
      | some e =>
        let c := c.advance
        let simple : Option Char :=
          match e with
          | '"' => some '"' | '\\' => some '\\' | '/' => some '/'
          | 'b' => some (Char.ofNat 8) | 'f' => some (Char.ofNat 12)
          | 'n' => some '\n' | 'r' => some '\r' | 't' => some '\t'
          | _ => none
        match simple with
        | some ch => readStringBody fuel (ch :: acc) c
        | none =>
          if e != 'u' then c.fail "invalid escape"
          else
            match readHex4 c with
            | .error err => .error err
            | .ok (n, c) =>
              if 0xDC00 ≤ n && n ≤ 0xDFFF then c.fail "lone leading surrogate in hex escape"
              else if 0xD800 ≤ n && n ≤ 0xDBFF then
                match c.rest with
                | '\\' :: 'u' :: _ =>
                  match readHex4 c.advance.advance with
                  | .error err => .error err
                  | .ok (m, c) =>
                    if 0xDC00 ≤ m && m ≤ 0xDFFF then
                      let code := 0x10000 + (n - 0xD800) * 0x400 + (m - 0xDC00)
                      readStringBody fuel (Char.ofNat code :: acc) c
                    else c.fail "lone leading surrogate in hex escape"
                | ['\\'] => c.advance.fail "EOF while parsing a string"
                | '\\' :: _ => c.advance.advance.fail "unexpected end of hex escape"
                | _ :: _ => c.advance.fail "unexpected end of hex escape"
                | [] => c.fail "EOF while parsing a string"
              else readStringBody fuel (Char.ofNat n :: acc) c
    | some ch =>
      if ch.toNat < 0x20 then c.advance.fail "control character (\\u0000-\\u001F) found while parsing a string"
      else readStringBody fuel (ch :: acc) c.advance

def readString (c : Cursor) : Except Error (String × Cursor) :=
  readStringBody (c.rest.length + 1) [] c

def significandMax : Nat := 18446744073709551615

def exponentMax : Nat := 2147483647

def powerOfTen (n : Nat) : Float := Decimal.nearest (Nat.pow 10 n) 1

def scaleFloat : Nat → Float → Int → Option Float
  | 0, f, _ => some f
  | fuel + 1, f, exponent =>
    if exponent.natAbs ≤ 308 then
      let p := powerOfTen exponent.natAbs
      if 0 ≤ exponent then
        let g := f * p
        if g.isInf then none else some g
      else some (f / p)
    else if f == 0.0 then some f
    else if 0 ≤ exponent then none
    else scaleFloat fuel (f / powerOfTen 308) (exponent + 308)

def fromParts (positive : Bool) (significand : Nat) (exponent : Int) (c : Cursor) :
    Except Error (Number × Cursor) :=
  match scaleFloat (exponent.natAbs / 308 + 2) (Decimal.nearest significand 1) exponent with
  | none => c.fail "number out of range"
  | some f => .ok (.float (if positive then f else -f), c)

def skipDigits : Nat → Cursor → Cursor
  | 0, c => c
  | fuel + 1, c =>
    match c.peek with
    | some d => if d.isDigit then skipDigits fuel c.advance else c
    | none => c

def digitOf (d : Char) : Nat := d.toNat - '0'.toNat

def readExponent (positive : Bool) (significand : Nat) (start : Int) (c : Cursor) :
    Except Error (Number × Cursor) :=
  let c := c.advance
  let (positiveExp, c) := match c.peek with
    | some '+' => (true, c.advance)
    | some '-' => (false, c.advance)
    | _ => (true, c)
  match c.peek with
  | none => c.fail "EOF while parsing a value"
  | some d =>
    if !d.isDigit then c.advance.fail "invalid number"
    else
      let rec go : Nat → Nat → Cursor → Except Error (Number × Cursor)
        | 0, e, c => fromParts positive significand (if positiveExp then start + e else start - e) c
        | fuel + 1, e, c =>
          match c.peek with
          | some d =>
            if d.isDigit then
              let c := c.advance
              let e' := e * 10 + digitOf d
              if e' > exponentMax then
                if significand != 0 && positiveExp then c.fail "number out of range"
                else .ok (.float (if positive then 0.0 else -0.0), skipDigits c.rest.length c)
              else go fuel e' c
            else fromParts positive significand (if positiveExp then start + e else start - e) c
          | none => fromParts positive significand (if positiveExp then start + e else start - e) c
      go c.rest.length (digitOf d) c.advance

def readFraction (positive : Bool) (significand : Nat) (start : Int) (c : Cursor) :
    Except Error (Number × Cursor) :=
  let c := c.advance
  let rec go : Nat → Nat → Nat → Cursor → Except Error (Number × Cursor)
    | 0, sig, n, c => fromParts positive sig (start - n) c
    | fuel + 1, sig, n, c =>
      match c.peek with
      | some d =>
        if d.isDigit then
          let sig' := sig * 10 + digitOf d
          if sig' > significandMax then
            let c := skipDigits c.rest.length c
            match c.peek with
            | some 'e' | some 'E' => readExponent positive sig (start - n) c
            | _ => fromParts positive sig (start - n) c
          else go fuel sig' (n + 1) c.advance
        else finish sig n c
      | none => finish sig n c
  go c.rest.length significand 0 c
where
  finish (sig n : Nat) (c : Cursor) : Except Error (Number × Cursor) :=
    if n == 0 then
      match c.peek with
      | some _ => c.failAhead "invalid number"
      | none => c.failAhead "EOF while parsing a value"
    else
      match c.peek with
      | some 'e' | some 'E' => readExponent positive sig (start - n) c
      | _ => fromParts positive sig (start - n) c

def afterInteger (positive : Bool) (significand : Nat) (c : Cursor) : Except Error (Number × Cursor) :=
  match c.peek with
  | some '.' => readFraction positive significand 0 c
  | some 'e' | some 'E' => readExponent positive significand 0 c
  | _ =>
    if positive then .ok (.nat significand, c)
    else if significand == 0 then .ok (.float (-0.0), c)
    else if significand ≤ 9223372036854775808 then .ok (.neg (-(significand : Int)), c)
    else .ok (.float (-(Decimal.nearest significand 1)), c)

/-- Reads the digits of an integer part too long for 64 bits: each further digit raises the
exponent. -/
def readLongInteger (positive : Bool) (significand : Nat) (c : Cursor) : Except Error (Number × Cursor) :=
  let rec go : Nat → Nat → Cursor → Except Error (Number × Cursor)
    | 0, e, c => fromParts positive significand e c
    | fuel + 1, e, c =>
      match c.peek with
      | some '.' => readFraction positive significand e c
      | some 'e' | some 'E' => readExponent positive significand e c
      | some d => if d.isDigit then go fuel (e + 1) c.advance else fromParts positive significand e c
      | none => fromParts positive significand e c
  go c.rest.length 0 c

def readNumber (negative : Bool) (c : Cursor) : Except Error (Number × Cursor) :=
  let positive := !negative
  match c.peek with
  | none => c.fail "EOF while parsing a value"
  | some '0' =>
    let c := c.advance
    match c.peek with
    | some d => if d.isDigit then c.failAhead "invalid number" else afterInteger positive 0 c
    | none => afterInteger positive 0 c
  | some first =>
    if !first.isDigit then c.advance.fail "invalid number"
    else
      let rec go : Nat → Nat → Cursor → Except Error (Number × Cursor)
        | 0, sig, c => afterInteger positive sig c
        | fuel + 1, sig, c =>
          match c.peek with
          | some d =>
            if d.isDigit then
              let sig' := sig * 10 + digitOf d
              if sig' > significandMax then readLongInteger positive sig c
              else go fuel sig' c.advance
            else afterInteger positive sig c
          | none => afterInteger positive sig c
      go c.rest.length (digitOf first) c.advance

def readWord (word : List Char) (c : Cursor) : Except Error Cursor :=
  let rec go : List Char → Cursor → Except Error Cursor
    | [], c => .ok c
    | w :: ws, c =>
      match c.peek with
      | none => c.fail "EOF while parsing a value"
      | some ch => if ch == w then go ws c.advance else c.advance.fail "expected ident"
  go word c

mutual

def readValue : Nat → Nat → Cursor → Except Error (Value × Cursor)
  | 0, _, c => c.fail "EOF while parsing a value"
  | fuel + 1, depth, c =>
    let c := c.skipBlank
    match c.peek with
    | none => c.failAhead "EOF while parsing a value"
    | some 'n' => do let c ← readWord ['u', 'l', 'l'] c.advance; pure (.null, c)
    | some 't' => do let c ← readWord ['r', 'u', 'e'] c.advance; pure (.bool true, c)
    | some 'f' => do let c ← readWord ['a', 'l', 's', 'e'] c.advance; pure (.bool false, c)
    | some '-' => do let (n, c) ← readNumber true c.advance; pure (.num n, c)
    | some '"' => do let (s, c) ← readString c.advance; pure (.str s, c)
    | some '[' =>
      if depth + 1 ≥ 128 then c.failAhead "recursion limit exceeded"
      else readElems fuel (depth + 1) true [] c.advance
    | some '{' =>
      if depth + 1 ≥ 128 then c.failAhead "recursion limit exceeded"
      else readMembers fuel (depth + 1) true [] c.advance
    | some ch =>
      if ch.isDigit then do let (n, c) ← readNumber false c; pure (.num n, c)
      else c.failAhead "expected value"

def readElems : Nat → Nat → Bool → List Value → Cursor → Except Error (Value × Cursor)
  | 0, _, _, _, c => c.fail "EOF while parsing a list"
  | fuel + 1, depth, first, acc, c =>
    let c := c.skipBlank
    match c.peek with
    | some ']' => .ok (.arr acc.reverse, c.advance)
    | none => c.failAhead "EOF while parsing a list"
    | some ch =>
      if !first && ch != ',' then c.failAhead "expected `,` or `]`"
      else
        let c := if first then c else c.advance.skipBlank
        match c.peek with
        | some ']' => c.failAhead "trailing comma"
        | none => c.failAhead "EOF while parsing a value"
        | some _ => do
          let (v, c) ← readValue fuel depth c
          readElems fuel depth false (v :: acc) c

def readMembers : Nat → Nat → Bool → List (String × Value) → Cursor →
    Except Error (Value × Cursor)
  | 0, _, _, _, c => c.fail "EOF while parsing an object"
  | fuel + 1, depth, first, acc, c =>
    let c := c.skipBlank
    match c.peek with
    | some '}' => .ok (.obj acc.reverse, c.advance)
    | none => c.failAhead "EOF while parsing an object"
    | some ch =>
      if !first && ch != ',' then c.failAhead "expected `,` or `\x7d`"
      else
        let c := if first then c else c.advance.skipBlank
        match c.peek with
        | some '"' => do
          let (k, c) ← readString c.advance
          let c := c.skipBlank
          match c.peek with
          | some ':' =>
            let (v, c) ← readValue fuel depth c.advance
            readMembers fuel depth false ((k, v) :: acc) c
          | some _ => c.failAhead "expected `:`"
          | none => c.failAhead "EOF while parsing an object"
        | some '}' => c.failAhead "trailing comma"
        | some _ => c.failAhead "key must be a string"
        | none => c.failAhead "EOF while parsing a value"

end

def parse (s : String) : Except Error Value := do
  let c := Cursor.start s
  let (v, c) ← readValue (2 * c.rest.length + 2) 0 c
  let c := c.skipBlank
  match c.peek with
  | none => pure v
  | some _ => c.failAhead "trailing characters"

end KeystrokeTally.Json
