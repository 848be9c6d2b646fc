import KeystrokeTally.Format.Json.Reader
import KeystrokeTally.Format.Json.Expect

namespace KeystrokeTally.Json

/-- Reports a value of the wrong kind at the cursor: a literal, number or string is read first
and the error placed after it; a container is reported before it is opened. -/
def invalidTypeAhead {α : Type} (c : Cursor) (expected : String) : Except Error α :=
  match c.peek with
  | some 'n' => do let c ← readWord ['u', 'l', 'l'] c.advance; c.fail (invalidType .null expected)
  | some 't' => do let c ← readWord ['r', 'u', 'e'] c.advance; c.fail (invalidType (.bool true) expected)
  | some 'f' => do let c ← readWord ['a', 'l', 's', 'e'] c.advance; c.fail (invalidType (.bool false) expected)
  | some '-' => do let (n, c) ← readNumber true c.advance; c.fail (invalidType (.num n) expected)
  | some '"' => do let (s, c) ← readString c.advance; c.fail (invalidType (.str s) expected)
  | some '[' => c.fail (invalidType (.arr []) expected)
  | some '\x7b' => c.fail (invalidType (.obj []) expected)
  | some ch =>
    if ch.isDigit then do let (n, c) ← readNumber false c; c.fail (invalidType (.num n) expected)
    else c.failAhead "expected value"
  | none => c.failAhead "EOF while parsing a value"

def readVariant (variants : List String) (c : Cursor) : Except Error (Nat × Cursor) :=
  let c := c.skipBlank
  match c.peek with
  | none => c.failAhead "EOF while parsing a value"
  | some '"' => do
    let (s, c) ← readString c.advance
    match variants.idxOf? s with
    | some i => pure (i, c)
    | none => c.fail (unknownVariant s variants)
  | some _ => invalidTypeAhead c "variant identifier"

def Cursor.closing (c : Cursor) (close : Char) : Cursor :=
  let c := c.skipBlank
  if c.peek == some close then c.advance else c

/-- Reads the members of a tagged object after its opening brace. `acc` holds the other members,
reversed; `found` the variant index once the tag was read. -/
def readTaggedMembers (tag : String) (variants : List String) :
    Nat → Bool → Option Nat → List (String × Value) → Cursor → Except Error (Nat × Value × Cursor)
  | 0, _, _, _, c => c.fail "EOF while parsing an object"
  | fuel + 1, first, found, acc, c =>
    let c := c.skipBlank
    match c.peek with
    | none => c.failAhead "EOF while parsing an object"
    | some '\x7d' =>
      match found with
      | some i => .ok (i, .obj acc.reverse, c.advance)
      | none => (c.closing '\x7d').fail (missingField tag)
    | some ch => do
      let c ← if first then
          if ch == '"' then pure c else c.failAhead "key must be a string"
        else if ch == ',' then
          let c := c.advance.skipBlank
          match c.peek with
          | some '"' => pure c
          | some '\x7d' => c.failAhead "trailing comma"
          | some _ => c.failAhead "key must be a string"
          | none => c.failAhead "EOF while parsing a value"
        else c.failAhead "expected `,` or `\x7d`"
      let (k, c) ← readString c.advance
      if k == tag && found.isSome then (c.closing '\x7d').fail (duplicateField tag)
      else
        let c := c.skipBlank
        let c ← match c.peek with
          | some ':' => pure c.advance
          | some _ => c.failAhead "expected `:`"
          | none => c.failAhead "EOF while parsing an object"
        if k == tag then
          let (i, c) ← readVariant variants c
          readTaggedMembers tag variants fuel false (some i) acc c
        else
          let (v, c) ← readValue fuel 1 c
          readTaggedMembers tag variants fuel false found ((k, v) :: acc) c

/-- Reads an internally tagged value from the start of `s`: the variant index, the remaining
content (the other members of an object, or the elements of an array after the tag) and the
cursor after the value. `expecting` names the tagged type for a value of the wrong kind. -/
def readTagged (tag : String) (variants : List String) (expecting : String) (s : String) :
    Except Error (Nat × Value × Cursor) :=
  let c := Cursor.start s
  let fuel := 2 * c.rest.length + 2
  let c := c.skipBlank
  match c.peek with
  | none => c.failAhead "EOF while parsing a value"
  | some '\x7b' => readTaggedMembers tag variants fuel true none [] c.advance
  | some '[' =>
    let c := c.advance.skipBlank
    match c.peek with
    | none => c.failAhead "EOF while parsing a list"
    | some ']' => (c.closing ']').fail (missingField tag)
    | some _ => do
      let (i, c) ← readVariant variants c
      let (rest, c) ← readElems fuel 1 false [] c
      pure (i, rest, c)
  | some _ => do
    let (v, c) ← readValue fuel 0 c
    c.fail (invalidType v expecting)

def Cursor.finish (c : Cursor) : Except Error Unit :=
  let c := c.skipBlank
  match c.peek with
  | none => .ok ()
  | some _ => c.failAhead "trailing characters"

end KeystrokeTally.Json
