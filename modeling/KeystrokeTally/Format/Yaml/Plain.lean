import KeystrokeTally.Arith.Checked
import KeystrokeTally.Decimal.Nearest
import KeystrokeTally.Text.Digits

namespace KeystrokeTally.Yaml

/-- What a plain scalar stands for. -/
inductive Plain where
  | null
  | bool (b : Bool)
  | unsigned (n : Nat)
  | signed (i : Int)
  | wideUnsigned (n : Nat)
  | wideSigned (i : Int)
  | float (x : Float)
  | text
  deriving Inhabited

namespace Plain

open Text (fromRadix)

def after? (s pfx : String) : Option String :=
  if s.startsWith pfx then some (s.drop pfx.length).toString else none

def hasSign (s : String) : Bool := s.startsWith "+" || s.startsWith "-"

def digitsButNotNumber (s : String) : Bool :=
  let cs := match s.toList with
    | '-' :: rest | '+' :: rest => rest
    | cs => cs
  cs.length > 1 && cs.head? == some '0' && cs.tail.all Char.isDigit

/-- The outcome of trying one spelling of an integer. -/
inductive Probe where
  | found (v : Int)
  | refused
  | untried

def Probe.orElse (p : Probe) (q : Unit → Probe) : Probe :=
  match p with
  | .untried => q ()
  | p => p

def Probe.result : Probe → Option Int
  | .found v => some v
  | _ => none

def prefixed (u pfx : String) (radix : Nat) (lo hi : Int) (sgn : Bool) : Probe :=
  match after? u pfx with
  | none => .untried
  | some rest =>
    if hasSign rest then .refused
    else match fromRadix rest radix sgn lo hi with
      | some v => .found v
      | none => .untried

def negPrefixed (s pfx : String) (radix : Nat) (lo hi : Int) : Probe :=
  match after? s ("-" ++ pfx) with
  | none => .untried
  | some rest =>
    match fromRadix ("-" ++ rest) radix true lo hi with
    | some v => .found v
    | none => .untried

def decimal (s u : String) (lo hi : Int) (sgn : Bool) : Probe :=
  if digitsButNotNumber s then .refused
  else match fromRadix u 10 sgn lo hi with
    | some v => .found v
    | none => .untried

def unpositive (s : String) : Option String :=
  match after? s "+" with
  | some u => if hasSign u then none else some u
  | none => some s

def parseSigned (s : String) (lo hi : Int) : Option Int :=
  (unpositive s).bind fun u =>
    (((((((prefixed u "0x" 16 lo hi true).orElse fun _ => negPrefixed s "0x" 16 lo hi).orElse
      fun _ => prefixed u "0o" 8 lo hi true).orElse fun _ => negPrefixed s "0o" 8 lo hi).orElse
      fun _ => prefixed u "0b" 2 lo hi true).orElse fun _ => negPrefixed s "0b" 2 lo hi).orElse
      fun _ => decimal s u lo hi true).result

def parseUnsigned (s : String) (hi : Int) : Option Int :=
  (unpositive s).bind fun u =>
    ((((prefixed u "0x" 16 0 hi false).orElse fun _ => prefixed u "0o" 8 0 hi false).orElse
      fun _ => prefixed u "0b" 2 0 hi false).orElse fun _ => decimal s u 0 hi false).result

def parseNegative (s : String) (lo hi : Int) : Option Int :=
  ((((negPrefixed s "0x" 16 lo hi).orElse fun _ => negPrefixed s "0o" 8 lo hi).orElse
    fun _ => negPrefixed s "0b" 2 lo hi).orElse fun _ => decimal s s lo hi true).result

def u128Max : Int := Nat.pow 2 128 - 1

def i128Min : Int := -((Nat.pow 2 127 : Nat) : Int)

def isNull (s : String) : Bool := s == "~" || s == "null" || s == "Null" || s == "NULL"

def parseBool (s : String) : Option Bool :=
  if s == "true" || s == "True" || s == "TRUE" then some true
  else if s == "false" || s == "False" || s == "FALSE" then some false
  else none

def parseF64 (s : String) : Option Float :=
  (unpositive s).bind fun u =>
    if u == ".inf" || u == ".Inf" || u == ".INF" then some Decimal.infinity
    else if s == "-.inf" || s == "-.Inf" || s == "-.INF" then some (-Decimal.infinity)
    else if s == ".nan" || s == ".NaN" || s == ".NAN" then some (0.0 / 0.0)
    else (Decimal.readFloat u).filter Float.isFinite

def integer? (s : String) : Option Plain :=
  match parseUnsigned s Word.maxUnsigned with
  | some n => some (.unsigned n.toNat)
  | none =>
    match parseNegative s Word.min Word.max with
    | some i => some (.signed i)
    | none =>
      match parseUnsigned s u128Max with
      | some n => some (.wideUnsigned n.toNat)
      | none => (parseNegative s i128Min (Nat.pow 2 127 - 1)).map .wideSigned

def resolve (s : String) : Plain :=
  if s.isEmpty || isNull s then .null
  else match parseBool s with
    | some b => .bool b
    | none =>
      match integer? s with
      | some p => p
      | none =>
        if digitsButNotNumber s then .text
        else match parseF64 s with
          | some x => .float x
          | none => .text

end Plain

end KeystrokeTally.Yaml
