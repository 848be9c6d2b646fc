namespace KeystrokeTally.Text

/-- Matches each character of `a` against a free character of `b` within `window` places, giving
the flags of matched positions in `a` and in `b`. -/
def jaroFlags (a b : List Char) (window : Nat) : List Bool × List Bool :=
  a.zipIdx.foldl
    (fun (aFlags, bFlags) (c, i) =>
      let lo := i - window
      let hi := min b.length (i + window + 1)
      let free (j : Nat) : Bool := lo ≤ j && b[j]? == some c && !(bFlags[j]?.getD true)
      match (List.range hi).find? free with
      | some j => (aFlags ++ [true], bFlags.set j true)
      | none => (aFlags ++ [false], bFlags))
    ([], List.replicate b.length false)

def flagged (cs : List Char) (flags : List Bool) : List Char :=
  (cs.zip flags).filterMap fun (c, f) => if f then some c else none

def jaro (x y : String) : Float :=
  let a := x.toList
  let b := y.toList
  if a.isEmpty && b.isEmpty then 1
  else if a.isEmpty || b.isEmpty then 0
  else
    let window := Nat.max a.length b.length / 2 - 1
    let (aFlags, bFlags) := jaroFlags a b window
    let ma := flagged a aFlags
    let mb := flagged b bFlags
    let m := ma.length
    let t := ((ma.zip mb).filter fun (p, q) => p != q).length / 2
    if m == 0 then 0
    else (m.toFloat / a.length.toFloat + m.toFloat / b.length.toFloat + (m - t).toFloat / m.toFloat) / 3

def suggestionThreshold : Float := 7 / 10

def similarNames (v : String) (candidates : List String) : List String :=
  let scored := (candidates.map fun c => (jaro v c, c)).filter fun (s, _) =>
    suggestionThreshold < s
  (scored.mergeSort fun p q => p.1 ≤ q.1).map (·.2)

def mostSimilar (v : String) (candidates : List String) : Option String :=
  (similarNames v candidates).getLast?

end KeystrokeTally.Text
