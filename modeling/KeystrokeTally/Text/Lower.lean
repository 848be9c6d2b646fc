import KeystrokeTally.Text.CaseData

namespace KeystrokeTally.Text

def lowerOffset (n : Nat) : Option Int :=
  CaseData.lowerRuns.findSome? fun (first, count, step, offset) =>
    if first ≤ n && n < first + step * count && (n - first) % step == 0 then some offset
    else none

def inRanges (ranges : Array (Nat × Nat)) (n : Nat) : Bool :=
  ranges.any fun (lo, hi) => lo ≤ n && n ≤ hi

def isCaseIgnorable (c : Char) : Bool :=
  inRanges CaseData.ignorableRanges c.toNat

def isCased (c : Char) : Bool :=
  inRanges CaseData.casedRanges c.toNat

def lowerChar (c : Char) : List Char :=
  if c.toNat == 0x130 then ['i', Char.ofNat 0x307]
  else
    match lowerOffset c.toNat with
    | some d => [Char.ofNat (c.toNat + d).toNat]
    | none => [c]

def casedAfterIgnorable (cs : List Char) : Bool :=
  match cs.dropWhile isCaseIgnorable with
  | c :: _ => isCased c
  | [] => false

/-- Capital sigma ends a word when a cased letter precedes it (`before` is read backwards) and
none follows it. -/
def endsWord (before after : List Char) : Bool :=
  casedAfterIgnorable before && !casedAfterIgnorable after

def lowerFrom : List Char → List Char → List Char
  | _, [] => []
  | before, c :: rest =>
    let here :=
      if c.toNat == 0x3A3 then
        [if endsWord before rest then Char.ofNat 0x3C2 else Char.ofNat 0x3C3]
      else lowerChar c
    here ++ lowerFrom (c :: before) rest

def lower (s : String) : String :=
  String.ofList (lowerFrom [] s.toList)

end KeystrokeTally.Text
