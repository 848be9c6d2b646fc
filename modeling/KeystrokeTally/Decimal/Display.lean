import KeystrokeTally.Decimal.Shortest

namespace KeystrokeTally.Decimal

def Sci.positional (s : Sci) : String :=
  let ds := natDigits s.digits
  let k : Int := ds.length + s.exp
  if 0 ≤ s.exp then ds ++ String.ofList (List.replicate s.exp.toNat '0')
  else if 0 < k then
    String.ofList (ds.toList.take k.toNat) ++ "." ++ String.ofList (ds.toList.drop k.toNat)
  else "0." ++ String.ofList (List.replicate (-k).toNat '0') ++ ds

def display (x : Float) : String :=
  match Binary.ofFloat x with
  | .nan => "NaN"
  | .infinite neg => if neg then "-inf" else "inf"
  | .finite neg mant exp bottom =>
    let sign := if neg then "-" else ""
    if mant == 0 then sign ++ "0" else sign ++ (shortestOf mant exp bottom).positional

def pointed (x : Float) : String :=
  let t := display x
  if x.isFinite && !t.toList.contains '.' then t ++ ".0" else t

def Sci.exponential (s : Sci) : String :=
  let ds := natDigits s.digits
  let n : Int := ds.length
  let k := n + s.exp
  if (0 ≤ s.exp && k ≤ 16) || (0 < k && k ≤ 16) || (-5 < k && k ≤ 0) then s.render
  else
    let e := k - 1
    let mant := match ds.toList with
      | [d] => String.singleton d
      | d :: rest => String.singleton d ++ "." ++ String.ofList rest
      | [] => "0"
    mant ++ "e" ++ (if e < 0 then "-" ++ natDigits (-e).toNat else "+" ++ natDigits e.toNat)

/-- A double with its shortest digits and a signed exponent where one is needed; `none` for
infinities and NaN. -/
def exponential (x : Float) : Option String :=
  match Binary.ofFloat x with
  | .finite neg mant exp bottom =>
    let sign := if neg then "-" else ""
    if mant == 0 then some (sign ++ "0.0")
    else some (sign ++ (shortestOf mant exp bottom).exponential)
  | _ => none

end KeystrokeTally.Decimal
