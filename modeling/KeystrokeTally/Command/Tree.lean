import KeystrokeTally.Command.Outcome
import KeystrokeTally.Host
import KeystrokeTally.Proc.Graph.Render

namespace KeystrokeTally.Command

open HostM

def tree (pid : Option Nat) (root : String) : HostM Outcome := do
  match ← enumerateProcfs root with
  | .error e => return .failed (.source e)
  | .ok (entries, skipped) =>
    let (g, _) ← refreshGraph Proc.Graph.empty entries
    match pid with
    | some p =>
      if p != Proc.rootPid then
        if !g.contains p then
          eprintln ("❌ No process with pid " ++ toString p)
          return .exit 1
        print (g.renderTree p)
        println ("\n📋 " ++ toString (g.descendants p).length ++ " descendants below " ++ toString p)
        return .done
      else forest g skipped
    | none => forest g skipped
where
  forest (g : Proc.Graph) (skipped : Nat) : HostM Outcome := do
    print g.renderForest
    println ("\n📋 " ++ toString (g.size - 1) ++ " processes in " ++ toString g.roots.length ++ " trees, " ++
      toString skipped ++ " unreadable entries")
    return .done

end KeystrokeTally.Command
