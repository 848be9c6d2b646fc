import KeystrokeTally.Arith.Checked

namespace KeystrokeTally.Tally

/-- A count as the table stores it. -/
inductive StoredCount where
  | int (i : Int)
  | real (x : Float)

/-- One row of the table. -/
structure CounterRow where
  bucket : Int
  bucketEnd : Int
  group : Int
  count : StoredCount

/-- The rows, ordered by bucket start and then group, one per pair. -/
structure CounterFile where
  rows : List CounterRow := []

def floatToWord (x : Float) : Int :=
  if x.isNaN then 0
  else if x ≥ 9223372036854775807.0 then Word.max
  else if x ≤ -9223372036854775808.0 then Word.min
  else
    let t := x.abs.floor
    let n : Int := (t.toUInt64.toNat : Int)
    if x < 0 then -n else n

def storeCount : StoredCount → StoredCount
  | .int i => .int i
  | .real x =>
    let i := floatToWord x
    if Float.ofInt i == x && Word.min < i && i < Word.max then .int i else .real x

def StoredCount.toFloat : StoredCount → Float
  | .int i => Float.ofInt i
  | .real x => x

def StoredCount.add : StoredCount → StoredCount → StoredCount
  | .int a, .int b => if Word.Fits (a + b) then .int (a + b) else .real (Float.ofInt a + Float.ofInt b)
  | a, b => .real (a.toFloat + b.toFloat)

/-- Why reading the table failed, as the database reports it. -/
inductive ReadError where
  | realColumn (index : Nat) (column : String)
  | overflow

def ReadError.message : ReadError → String
  | .realColumn i c => "Invalid column type Real at index: " ++ toString i ++ ", name: " ++ c
  | .overflow => "integer overflow"

def StoredCount.read (c : StoredCount) (index : Nat) (column : String) : Except ReadError Int :=
  match c with
  | .int i => .ok i
  | .real _ => .error (.realColumn index column)

def CounterRow.read (r : CounterRow) : Except ReadError (Int × Int × Int × Int) := do
  pure (r.bucket, r.bucketEnd, r.group, ← r.count.read 3 "count")

namespace CounterFile

def before (b g : Int) (r : CounterRow) : Bool :=
  b < r.bucket || (b == r.bucket && g < r.group)

def upsert (t : CounterFile) (bucket bucketEnd group delta : Int) : CounterFile :=
  let rec go : List CounterRow → List CounterRow
    | [] => [⟨bucket, bucketEnd, group, .int delta⟩]
    | r :: rs =>
      if r.bucket == bucket && r.group == group then
        { r with count := storeCount (r.count.add (.int delta)) } :: rs
      else if before bucket group r then ⟨bucket, bucketEnd, group, .int delta⟩ :: r :: rs
      else r :: go rs
  ⟨go t.rows⟩

def countFor (t : CounterFile) (bucket group : Int) : Except ReadError (Option Int) :=
  match t.rows.find? (fun r => r.bucket == bucket && r.group == group) with
  | some r => do pure (some (← r.count.read 0 "count"))
  | none => pure none

def between (t : CounterFile) (lo hi : Int) : Except ReadError (List (Int × Int × Int × Int)) :=
  (t.rows.filter fun r => lo ≤ r.bucket && r.bucket ≤ hi).mapM CounterRow.read

def groups (t : CounterFile) : List Int :=
  (t.rows.map (·.group)).foldl (fun acc g => if acc.contains g then acc else acc ++ [g]) []
    |>.mergeSort (· ≤ ·)

/-- The total of one group's counts: integers summed with overflow detection, a real if any
count is real. -/
def groupTotal (t : CounterFile) (g : Int) : Except ReadError StoredCount :=
  let counts := (t.rows.filter (·.group == g)).map (·.count)
  let step : (Int × Bool × Option Float) → StoredCount → (Int × Bool × Option Float)
    | (s, overflowed, real), .int i =>
      match real with
      | some x => (s, overflowed, some (x + Float.ofInt i))
      | none => if Word.Fits (s + i) then (s + i, overflowed, none) else (s, true, some (Float.ofInt s + Float.ofInt i))
    | (s, overflowed, real), .real x =>
      match real with
      | some y => (s, overflowed, some (y + x))
      | none => (s, overflowed, some (Float.ofInt s + x))
  let (s, overflowed, real) := counts.foldl step (0, false, none)
  if overflowed then .error .overflow
  else match real with
    | some x => .ok (.real x)
    | none => .ok (.int s)

def totals (t : CounterFile) : Except ReadError (List (Int × Int)) :=
  t.groups.mapM fun g => do
    let total ← t.groupTotal g
    pure (g, ← total.read 1 "SUM(count)")

def rowCount (t : CounterFile) : Nat := t.rows.length

end CounterFile

end KeystrokeTally.Tally
