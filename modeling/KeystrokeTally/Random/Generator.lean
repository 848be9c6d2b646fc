import KeystrokeTally.Random.ChaCha

namespace KeystrokeTally.Random

/-- The generator: its key, the block to compute next, and the unread words of the current one. -/
structure Generator where
  key : List UInt32
  counter : UInt64 := 0
  pending : List UInt32 := []
  deriving Inhabited

def doubleRounds : Nat := 6

def pcgStep (state : UInt64) : UInt64 × UInt32 :=
  let state := state * 6364136223846793005 + 11634580027462260723
  let xorshifted := (((state >>> 18) ^^^ state) >>> 27).toUInt32
  let rot := (state >>> 59).toUInt32
  (state, (xorshifted >>> rot) ||| (xorshifted <<< ((32 - rot) % 32)))

def Generator.ofSeed (seed : UInt64) : Generator :=
  let (_, words) := (List.range 8).foldl (fun (st, ws) _ => let (st, w) := pcgStep st; (st, ws ++ [w])) (seed, [])
  { key := words }

namespace Generator

def nextWord (g : Generator) : UInt32 × Generator :=
  match g.pending with
  | w :: ws => (w, { g with pending := ws })
  | [] =>
    match block g.key g.counter 0 doubleRounds with
    | w :: ws => (w, { g with counter := g.counter + 1, pending := ws })
    | [] => (0, g)

def nextU64 (g : Generator) : UInt64 × Generator :=
  let (lo, g) := g.nextWord
  let (hi, g) := g.nextWord
  ((hi.toUInt64 <<< 32) ||| lo.toUInt64, g)

def zone (n : Nat) : Nat :=
  let lz := 64 - Nat.log2 n - 1
  (n * Nat.pow 2 lz) % Nat.pow 2 64 - 1

def belowWith (n : Nat) : Nat → Generator → Nat × Generator
  | 0, g => (0, g)
  | fuel + 1, g =>
    let (v, g) := g.nextU64
    let product := v.toNat * n
    if product % Nat.pow 2 64 ≤ zone n then (product / Nat.pow 2 64, g) else belowWith n fuel g

def below (n : Nat) (g : Generator) : Nat × Generator :=
  belowWith n 1024 g

end Generator

end KeystrokeTally.Random
