import KeystrokeTally.Command.Outcome
import KeystrokeTally.Host
import KeystrokeTally.Classify.Tier
import KeystrokeTally.Window.Table
import KeystrokeTally.Config.Basic

namespace KeystrokeTally.Command

open HostM

def probeWindow : Window.Handle := 1

def classify (className : String) (pid : Option Int) (s : Config.Settings) : HostM Outcome := do
  println "🔎 keytally - Classification"
  println "============================"
  match ← enumerateProcfs s.effectiveProcRoot with
  | .error e => return .failed (.source e)
  | .ok (entries, _) =>
    let (g, _) ← refreshGraph Proc.Graph.empty entries
    let owner := pid.bind Window.ownerOfRaw
    let table := ({} : Window.Table).declare probeWindow (Window.Metadata.make className owner)
    println "\n🪟 Window"
    println ("   ├─ Class: " ++ (if className.isEmpty then "<unknown>" else className))
    match owner with
    | some p =>
      let name := g.nameOf p
      println ("   ├─ Owner: " ++ toString p ++ " (" ++ (if name.isEmpty then "<not running>" else name) ++ ")")
    | none => println "   ├─ Owner: <unknown>"
    let terminal := Window.isTerminalClass className
    println ("   └─ Terminal: " ++ (if terminal then "yes" else "no"))
    match terminal, owner with
    | true, some p =>
      let below ← descendantsOf g p
      println ("\n🌳 " ++ toString below.length ++ " processes below the owner")
      for (c, n) in below.take 20 do
        println ("   ├─ " ++ toString c ++ " " ++ n)
    | _, _ => pure ()
    let rules := s.rules
    let cls := table.className probeWindow
    let own := table.owner probeWindow
    if Window.isTerminalClass cls then
      if let some p := own.filter (· != 0) then
        discard (descendantsOf g p)
    let result := Classify.classify rules g cls own
    log .trace "keytally::classifier" (Classify.explain probeWindow g cls own result)
    println "\n📋 Result:"
    match result with
    | some m =>
      let label := ((rules.get? m.group).map Classify.Group.label).getD (toString m.group)
      println ("   ✅ Group " ++ toString m.group ++ " (" ++ label ++ ") via " ++ m.tier.text ++ " tier")
    | none =>
      match s.unmatchedGroup with
      | some grp => println ("   ⚠️  Unmatched, counted under group " ++ toString grp)
      | none => println "   ⚠️  Unmatched, key presses would be discarded"
    return .done

end KeystrokeTally.Command
