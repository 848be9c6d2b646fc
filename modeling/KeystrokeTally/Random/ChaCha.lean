namespace KeystrokeTally.Random

def sigma : List UInt32 := [0x61707865, 0x3320646e, 0x79622d32, 0x6b206574]

def rotl (x : UInt32) (n : UInt32) : UInt32 := (x <<< n) ||| (x >>> (32 - n))

def quarter (s : Array UInt32) (a b c d : Nat) : Array UInt32 :=
  let xa := s[a]!
  let xb := s[b]!
  let xc := s[c]!
  let xd := s[d]!
  let xa := xa + xb
  let xd := rotl (xd ^^^ xa) 16
  let xc := xc + xd
  let xb := rotl (xb ^^^ xc) 12
  let xa := xa + xb
  let xd := rotl (xd ^^^ xa) 8
  let xc := xc + xd
  let xb := rotl (xb ^^^ xc) 7
  ((s.set! a xa).set! b xb |>.set! c xc).set! d xd

def doubleRound (s : Array UInt32) : Array UInt32 :=
  let s := quarter s 0 4 8 12
  let s := quarter s 1 5 9 13
  let s := quarter s 2 6 10 14
  let s := quarter s 3 7 11 15
  let s := quarter s 0 5 10 15
  let s := quarter s 1 6 11 12
  let s := quarter s 2 7 8 13
  quarter s 3 4 9 14

def initial (key : List UInt32) (counter stream : UInt64) : Array UInt32 :=
  (sigma ++ key ++ [counter.toUInt32, (counter >>> 32).toUInt32, stream.toUInt32, (stream >>> 32).toUInt32]).toArray

def block (key : List UInt32) (counter stream : UInt64) (doubleRounds : Nat) : List UInt32 :=
  let s0 := initial key counter stream
  let s := (List.range doubleRounds).foldl (fun s _ => doubleRound s) s0
  (s.toList.zip s0.toList).map fun (x, y) => x + y

end KeystrokeTally.Random
