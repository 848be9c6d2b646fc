namespace KeystrokeTally.Json

/-- A JSON number as the reader classifies it: a non-negative integer below `2^64`, a negative
integer not below `-2^63`, and every other number (a fraction, an exponent, minus zero, or an
integer out of those ranges) as the nearest double. -/
inductive Number where
  | nat (n : Nat)
  | neg (i : Int)
  | float (x : Float)

/-- A JSON value. -/
inductive Value where
  | null
  | bool (b : Bool)
  | num (n : Number)
  | str (s : String)
  | arr (xs : List Value)
  | obj (members : List (String × Value))

namespace Value

def int (i : Int) : Value :=
  if 0 ≤ i then .num (.nat i.toNat) else .num (.neg i)

def nat (n : Nat) : Value :=
  .num (.nat n)

def float (x : Float) : Value :=
  .num (.float x)

def opt {α : Type} (f : α → Value) : Option α → Value
  | some a => f a
  | none => .null

def field? (members : List (String × Value)) (key : String) : Option Value :=
  (members.find? (·.1 == key)).map (·.2)

def members? : Value → Option (List (String × Value))
  | .obj ms => some ms
  | _ => none

def elems? : Value → Option (List Value)
  | .arr xs => some xs
  | _ => none

def str? : Value → Option String
  | .str s => some s
  | _ => none

def bool? : Value → Option Bool
  | .bool b => some b
  | _ => none

def int? : Value → Option Int
  | .num (.nat n) => some n
  | .num (.neg i) => some i
  | _ => none

def float? : Value → Option Float
  | .num (.nat n) => some (Float.ofNat n)
  | .num (.neg i) => some (-(Float.ofNat i.natAbs))
  | .num (.float x) => some x
  | _ => none

end Value

end KeystrokeTally.Json
