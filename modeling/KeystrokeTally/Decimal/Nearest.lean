namespace KeystrokeTally.Decimal

def scaledDiv (num den : Nat) (e : Int) : Nat × Nat × Nat :=
  if e ≤ 0 then
    let n := num * Nat.pow 2 (-e).toNat
    (n / den, n % den, den)
  else
    let d := den * Nat.pow 2 e.toNat
    (num / d, num % d, d)

def infinity : Float := Float.ofBits 0x7FF0000000000000

/-- The double nearest to `num / den`, a tie going to the even mantissa; zero when either is
zero, infinity past the largest double. -/
def nearest (num den : Nat) : Float :=
  if num == 0 || den == 0 then 0.0
  else
    let two52 := Nat.pow 2 52
    let two53 := Nat.pow 2 53
    let e0 : Int := (num.log2 : Int) - (den.log2 : Int) - 52
    let (q0, _, _) := scaledDiv num den e0
    let e1 := if q0 ≥ two53 then e0 + 1 else if q0 < two52 then e0 - 1 else e0
    let e := max e1 (-1074)
    let (q, r, d) := scaledDiv num den e
    let q := if 2 * r > d || (2 * r == d && q % 2 == 1) then q + 1 else q
    let (q, e) := if q == two53 then (two52, e + 1) else (q, e)
    if e > 971 then infinity
    else Float.ofBits (UInt64.ofNat ((e + 1074).toNat * two52 + q))

/-- The double nearest to `m * 10^e`. Exponents far outside the range of doubles give
infinity or zero without building the power. -/
def nearestDecimal (m : Nat) (e : Int) : Float :=
  if m == 0 then 0.0
  else
    let lead : Int := (Nat.toDigits 10 m).length + e
    if lead > 310 then infinity
    else if lead < -325 then 0.0
    else if 0 ≤ e then nearest (m * Nat.pow 10 e.toNat) 1
    else nearest m (Nat.pow 10 (-e).toNat)

def digitRun (cs : List Char) : Nat × Nat × List Char :=
  let rec go : List Char → Nat → Nat → Nat × Nat × List Char
    | c :: rest, v, n => if c.isDigit then go rest (v * 10 + (c.toNat - '0'.toNat)) (n + 1) else (v, n, c :: rest)
    | [], v, n => (v, n, [])
  go cs 0 0

def spellsWord (cs : List Char) (word : String) : Bool :=
  cs.length == word.length && (cs.zip word.toList).all fun (a, b) => a.toLower == b

/-- The double that decimal text spells (an optional sign, then `inf`, `infinity`, `nan` or a
decimal number with optional fraction and exponent), if it spells one. -/
def readFloat (s : String) : Option Float :=
  let (neg, body) := match s.toList with
    | '-' :: rest => (true, rest)
    | '+' :: rest => (false, rest)
    | cs => (false, cs)
  let sign (x : Float) := if neg then -x else x
  if spellsWord body "inf" || spellsWord body "infinity" then some (sign infinity)
  else if spellsWord body "nan" then some (sign (0.0 / 0.0))
  else
    let (whole, wn, rest) := digitRun body
    let (frac, fn, rest) := match rest with
      | '.' :: more => digitRun more
      | _ => (0, 0, rest)
    let pointed := match body.drop wn with
      | '.' :: _ => true
      | _ => false
    let rest := if pointed && fn == 0 then (body.drop (wn + 1)) else rest
    if wn + fn == 0 then none
    else
      let expo : Option Int := match rest with
        | [] => some 0
        | c :: more =>
          if c == 'e' || c == 'E' then
            let (eneg, ds) := match more with
              | '-' :: ds => (true, ds)
              | '+' :: ds => (false, ds)
              | ds => (false, ds)
            let (v, n, tail) := digitRun ds
            if n == 0 || !tail.isEmpty then none
            else some (if eneg then -(v : Int) else v)
          else none
      expo.map fun x => sign (nearestDecimal (whole * Nat.pow 10 fn + frac) (x - fn))

end KeystrokeTally.Decimal
