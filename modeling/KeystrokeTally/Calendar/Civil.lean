import KeystrokeTally.Text.Blank

namespace KeystrokeTally.Calendar

/-- A date and time of day. -/
structure DateTime where
  year : Int
  month : Nat
  day : Nat
  hour : Nat
  minute : Nat
  second : Nat
  deriving DecidableEq, Repr

def minYear : Int := -262143

def maxYear : Int := 262142

def civilOfDays (days : Int) : Int × Nat × Nat :=
  let z := days + 719468
  let era := z / 146097
  let doe := (z - era * 146097).toNat
  let yoe := (doe - doe / 1460 + doe / 36524 - doe / 146096) / 365
  let doy := doe - (365 * yoe + yoe / 4 - yoe / 100)
  let mp := (5 * doy + 2) / 153
  let day := doy - (153 * mp + 2) / 5 + 1
  let month := if mp < 10 then mp + 3 else mp - 9
  let year := (yoe : Int) + era * 400 + (if month ≤ 2 then 1 else 0)
  (year, month, day)

def ofTimestamp (ts : Int) : Option DateTime :=
  let days := ts / 86400
  let secs := (ts % 86400).toNat
  let (year, month, day) := civilOfDays days
  if minYear ≤ year && year ≤ maxYear then
    some ⟨year, month, day, secs / 3600, secs % 3600 / 60, secs % 60⟩
  else none

def zeroPad (n : Nat) (width : Nat) : String :=
  let s := toString n
  String.ofList (List.replicate (width - s.length) '0') ++ s

def yearText (y : Int) : String :=
  if 0 ≤ y && y < 10000 then zeroPad y.toNat 4
  else (if y < 0 then "-" else "+") ++ zeroPad y.natAbs 4

def DateTime.render (t : DateTime) : String :=
  yearText t.year ++ "-" ++ zeroPad t.month 2 ++ "-" ++ zeroPad t.day 2 ++ " " ++
    zeroPad t.hour 2 ++ ":" ++ zeroPad t.minute 2 ++ ":" ++ zeroPad t.second 2

def formatTimestamp (ts : Int) : String :=
  match ofTimestamp ts with
  | some t => t.render
  | none => toString ts

end KeystrokeTally.Calendar
