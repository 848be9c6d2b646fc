namespace KeystrokeTally.Text

def digitsValue : List Char → Option Nat
  | [] => none
  | cs =>
    if cs.all Char.isDigit then some (cs.foldl (fun acc c => acc * 10 + (c.toNat - '0'.toNat)) 0)
    else none

def readUnsigned (s : String) (max : Nat) : Option Nat :=
  let digits := match s.toList with
    | '+' :: rest => rest
    | cs => cs
  match digitsValue digits with
  | some n => if n ≤ max then some n else none
  | none => none

def readSigned (s : String) (lo hi : Int) : Option Int :=
  let (negative, digits) := match s.toList with
    | '+' :: rest => (false, rest)
    | '-' :: rest => (true, rest)
    | cs => (false, cs)
  match digitsValue digits with
  | some n =>
    let v : Int := if negative then -(n : Int) else n
    if lo ≤ v && v ≤ hi then some v else none
  | none => none

/-- Why a text is not a decimal integer of a range. -/
inductive NumberError where
  | empty
  | invalidDigit
  | tooLarge
  | tooSmall
  deriving DecidableEq, Repr

def NumberError.message : NumberError → String
  | .empty => "cannot parse integer from empty string"
  | .invalidDigit => "invalid digit found in string"
  | .tooLarge => "number too large to fit in target type"
  | .tooSmall => "number too small to fit in target type"

/-- Accumulates digits left to right, stopping at the first character that is not a digit or the
first digit that takes the magnitude past `bound`; `tooBig` names that failure. -/
def accumulate (bound : Nat) (tooBig : NumberError) : Nat → List Char → Except NumberError Nat
  | acc, [] => .ok acc
  | acc, c :: cs =>
    if c.isDigit then
      let next := acc * 10 + (c.toNat - '0'.toNat)
      if next ≤ bound then accumulate bound tooBig next cs else .error tooBig
    else .error .invalidDigit

/-- Reads a decimal integer within `[lo, hi]`, where `lo ≤ 0 ≤ hi`. A leading `+` is allowed, a
leading `-` only when `lo < 0`; a sign alone is an invalid digit. The first fault from the left
decides the error, and a magnitude past the range is too large or, after a `-`, too small. -/
def parseDecimal (s : String) (lo hi : Int) : Except NumberError Int :=
  match s.toList with
  | [] => .error .empty
  | ['+'] | ['-'] => .error .invalidDigit
  | '+' :: cs => (accumulate hi.toNat .tooLarge 0 cs).map (fun n => (n : Int))
  | '-' :: cs =>
    if lo < 0 then (accumulate (-lo).toNat .tooSmall 0 cs).map (fun n => -(n : Int))
    else .error .invalidDigit
  | cs => (accumulate hi.toNat .tooLarge 0 cs).map (fun n => (n : Int))

theorem digitsValue_nil : digitsValue [] = none := rfl

end KeystrokeTally.Text

namespace KeystrokeTally.Text

def digitValue (c : Char) : Option Nat :=
  if c.isDigit then some (c.toNat - '0'.toNat)
  else if 'a' ≤ c && c ≤ 'f' then some (c.toNat - 'a'.toNat + 10)
  else if 'A' ≤ c && c ≤ 'F' then some (c.toNat - 'A'.toNat + 10)
  else none

def fromRadix (s : String) (radix : Nat) (signed : Bool) (lo hi : Int) : Option Int :=
  let (neg, ds) : Bool × List Char := match s.toList with
    | ['+'] | ['-'] => (false, [])
    | '+' :: rest => (false, rest)
    | '-' :: rest => if signed then (true, rest) else (false, s.toList)
    | cs => (false, cs)
  if ds.isEmpty then none
  else
    let magnitude := ds.foldlM (fun (acc : Nat) c => do
      let d ← digitValue c
      if d < radix then some (acc * radix + d) else none) 0
    magnitude.bind fun m =>
      let v : Int := if neg then -(m : Int) else m
      if lo ≤ v && v ≤ hi then some v else none

end KeystrokeTally.Text
