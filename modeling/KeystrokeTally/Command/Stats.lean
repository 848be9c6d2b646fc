import KeystrokeTally.Command.Outcome
import KeystrokeTally.Host
import KeystrokeTally.Calendar.Civil
import KeystrokeTally.Config.Basic
import KeystrokeTally.Format.Json.Writer
import KeystrokeTally.Text.Blank
import KeystrokeTally.Arith.Checked

namespace KeystrokeTally.Command

open HostM

/-- How stats are printed. -/
inductive StatsView where
  | table
  | json
  deriving DecidableEq, Repr

def groupName (rules : Classify.Rules) (g : Int) : String :=
  ((rules.get? g).map Classify.Group.label).getD "-"

def sumByGroup (rows : List (Int × Int × Int × Int)) : List (Int × Int) :=
  let groups := (rows.map (·.2.2.1)).foldl (fun acc g => if acc.contains g then acc else acc ++ [g]) []
  (groups.mergeSort (· ≤ ·)).map fun g =>
    (g, ((rows.filter (·.2.2.1 == g)).map (·.2.2.2)).foldl (· + ·) 0)

def printTotals (view : StatsView) (rules : Classify.Rules) (rows : List (Int × Int)) : HostM Unit := do
  match view with
  | .json =>
    println (Json.Value.render (.arr (rows.map fun (g, n) =>
      .obj [("group", Json.Value.int g), ("name", .str (groupName rules g)), ("count", Json.Value.int n)])))
  | .table =>
    println (Text.padLeft "GROUP" 8 ++ "  " ++ Text.padRight "NAME" 20 ++ "  " ++ Text.padLeft "KEYSTROKES" 12)
    for (g, n) in rows do
      println (Text.padLeft (toString g) 8 ++ "  " ++ Text.padRight (groupName rules g) 20 ++ "  " ++
        Text.padLeft (toString n) 12)
    println ("\n📋 Total: " ++ toString ((rows.map (·.2)).foldl (· + ·) 0) ++ " keystrokes in " ++ toString rows.length ++ " groups")

def printRows (view : StatsView) (rules : Classify.Rules) (rows : List (Int × Int × Int × Int)) : HostM Unit := do
  match view with
  | .json =>
    println (Json.Value.render (.arr (rows.map fun (b, e, g, n) =>
      .obj [("bucket_start", Json.Value.int b), ("bucket_end", Json.Value.int e), ("group", Json.Value.int g),
        ("count", Json.Value.int n)])))
  | .table =>
    println (Text.padRight "BUCKET START" 19 ++ "  " ++ Text.padRight "BUCKET END" 19 ++ "  " ++
      Text.padLeft "GROUP" 8 ++ "  " ++ Text.padRight "NAME" 20 ++ "  " ++ Text.padLeft "KEYSTROKES" 10)
    for (b, e, g, n) in rows do
      println (Text.padRight (Calendar.formatTimestamp b) 19 ++ "  " ++ Text.padRight (Calendar.formatTimestamp e) 19 ++
        "  " ++ Text.padLeft (toString g) 8 ++ "  " ++ Text.padRight (groupName rules g) 20 ++ "  " ++
        Text.padLeft (toString n) 10)
    println ("\n📋 " ++ toString rows.length ++ " counter rows")

def stats (fromTs toTs : Option Int) (totals : Bool) (view : StatsView) (s : Config.Settings) :
    HostM Outcome := do
  let path := s.effectiveDbPath (← home)
  if !(← disk).exists? path then
    eprintln ("❌ Database not found: " ++ path)
    return .exit 1
  match ← openDatabase path s.effectiveClusterSize with
  | .error e => return .failed (.store e)
  | .ok db =>
    let rules := s.rules
    let unbounded := fromTs.isNone && toTs.isNone
    let rows ← if unbounded && totals then pure (.ok []) else pure (db.between (fromTs.getD Word.min) (toTs.getD Word.max))
    match rows with
    | .error e => return .failed (.store e)
    | .ok rows =>
      if totals then
        let sums ← if unbounded then pure db.totals else pure (.ok (sumByGroup rows))
        match sums with
        | .error e => return .failed (.store e)
        | .ok sums =>
          printTotals view rules sums
          return .done
      else
        printRows view rules rows
        return .done

end KeystrokeTally.Command
