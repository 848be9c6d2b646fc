namespace KeystrokeTally.Decimal

/-- What the 64 bits of a double encode. -/
inductive Binary where
  | finite (neg : Bool) (mant : Nat) (exp : Int) (bottom : Bool)
  | infinite (neg : Bool)
  | nan

def Binary.ofFloat (x : Float) : Binary :=
  let bits := x.toBits.toNat
  let neg := bits / Nat.pow 2 63 == 1
  let e : Nat := (bits / Nat.pow 2 52) % 2048
  let f := bits % Nat.pow 2 52
  if e == 2047 then (if f == 0 then .infinite neg else .nan)
  else if e == 0 then .finite neg f (-1074) false
  else .finite neg (f + Nat.pow 2 52) ((e : Int) - 1075) (f == 0 && e > 1)

/-- `a * 10^t` and `b * 2^u` brought to one scale: the pair `(A, B)` with `A / B` equal to
`(a * 10^t) / (b * 2^u)`. -/
def scale (a : Nat) (t : Int) (b : Nat) (u : Int) : Nat × Nat :=
  let (a, b) := if 0 ≤ t then (a * Nat.pow 10 t.toNat, b) else (a, b * Nat.pow 10 (-t).toNat)
  if 0 ≤ u then (a, b * Nat.pow 2 u.toNat) else (a * Nat.pow 2 (-u).toNat, b)

def cmpScaled (a : Nat) (t : Int) (b : Nat) (u : Int) : Ordering :=
  let (x, y) := scale a t b u
  compare x y

def floorDiv (b : Nat) (u : Int) (t : Int) : Nat :=
  let (x, y) := scale 1 t b u
  y / x

/-- The decimal exponent of the leading digit of `b * 2^u` (for `b > 0`): the greatest `e` with
`10^e ≤ b * 2^u`. The estimate from the binary length is within two of it, and the search
climbs from below the estimate. -/
def leadExponent (b : Nat) (u : Int) : Int :=
  let estimate : Int := ((Nat.log2 b : Int) + u) * 30103 / 100000
  let rec go : Nat → Int → Int
    | 0, e => e
    | fuel + 1, e =>
      if cmpScaled 1 (e + 1) b u == .gt then e else go fuel (e + 1)
  go 8 (estimate - 3)

/-- A positive decimal `digits * 10^exp`. -/
structure Sci where
  digits : Nat
  exp : Int
  deriving Repr, DecidableEq

def Sci.normalize (s : Sci) : Sci :=
  let rec go : Nat → Nat → Int → Sci
    | 0, d, e => ⟨d, e⟩
    | fuel + 1, d, e => if d != 0 && d % 10 == 0 then go fuel (d / 10) (e + 1) else ⟨d, e⟩
  go 400 s.digits s.exp

def shortestOf (mant : Nat) (exp : Int) (bottom : Bool) : Sci :=
  let v := 4 * mant
  let hi := 4 * mant + 2
  let lo := if bottom then 4 * mant - 1 else 4 * mant - 2
  let closed := mant % 2 == 0
  let u := exp - 2
  let inside (d : Nat) (p : Int) : Bool :=
    let above := cmpScaled d p lo u
    let below := cmpScaled d p hi u
    (above == .gt || (closed && above == .eq)) && (below == .lt || (closed && below == .eq))
  let lead := leadExponent v u
  let rec search : Nat → Nat → Sci
    | 0, _ => ⟨floorDiv v u (lead - 16), lead - 16⟩
    | fuel + 1, k =>
      let p := lead - (k : Int) + 1
      let q := floorDiv v u p
      let inQ := inside q p
      let inR := inside (q + 1) p
      if inQ && inR then
        match cmpScaled (2 * q + 1) p (2 * v) u with
        | .gt => ⟨q, p⟩
        | .lt => ⟨q + 1, p⟩
        | .eq => if q % 2 == 0 then ⟨q, p⟩ else ⟨q + 1, p⟩
      else if inQ then ⟨q, p⟩
      else if inR then ⟨q + 1, p⟩
      else search fuel (k + 1)
  (search 17 1).normalize

def natDigits (n : Nat) : String :=
  String.ofList (Nat.toDigits 10 n)

/-- Writes a positive decimal the way JSON numbers of this program are written: positional, and
always with a fraction, when the point falls within 16 places after the first digit or at most
4 zeros stand between it and the first digit; otherwise one digit, a fraction if more digits
remain, and an exponent. -/
def Sci.render (s : Sci) : String :=
  let ds := natDigits s.digits
  let n : Int := ds.length
  let k := n + s.exp
  if 0 ≤ s.exp && k ≤ 16 then
    ds ++ String.ofList (List.replicate s.exp.toNat '0') ++ ".0"
  else if 0 < k && k ≤ 16 then
    String.ofList (ds.toList.take k.toNat) ++ "." ++ String.ofList (ds.toList.drop k.toNat)
  else if -5 < k && k ≤ 0 then
    "0." ++ String.ofList (List.replicate (-k).toNat '0') ++ ds
  else
    let e := k - 1
    let mant := match ds.toList with
      | [d] => String.singleton d
      | d :: rest => String.singleton d ++ "." ++ String.ofList rest
      | [] => "0"
    mant ++ "e" ++ (if e < 0 then "-" ++ natDigits (-e).toNat else natDigits e.toNat)

def shortest (x : Float) : Option String :=
  match Binary.ofFloat x with
  | .finite neg mant exp bottom =>
    let sign := if neg then "-" else ""
    if mant == 0 then some (sign ++ "0.0")
    else some (sign ++ (shortestOf mant exp bottom).render)
  | _ => none

def roundScaled (b : Nat) (u : Int) (places : Nat) : Nat :=
  let (x, y) := scale 1 (-(places : Int)) b u
  let q := y / x
  let r := y % x
  if 2 * r > x then q + 1 else if 2 * r < x then q else if q % 2 == 0 then q else q + 1

/-- A double written with a fixed number of decimal places, rounding the exact value to nearest
with ties to even; infinities as `inf` and `-inf`, NaN as `NaN`. -/
def fixed (places : Nat) (x : Float) : String :=
  match Binary.ofFloat x with
  | .nan => "NaN"
  | .infinite neg => if neg then "-inf" else "inf"
  | .finite neg mant exp _ =>
    let n := roundScaled mant exp places
    let ds := natDigits n
    let padded := String.ofList (List.replicate (places + 1 - ds.length) '0') ++ ds
    let cut := padded.length - places
    let body :=
      if places == 0 then padded
      else String.ofList (padded.toList.take cut) ++ "." ++ String.ofList (padded.toList.drop cut)
    (if neg then "-" else "") ++ body

end KeystrokeTally.Decimal
