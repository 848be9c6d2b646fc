import KeystrokeTally.Command.Outcome
import KeystrokeTally.Requirements
import KeystrokeTally.Host
import KeystrokeTally.Proc.Graph.Render

namespace KeystrokeTally.Command

open HostM

def checkProcesses (root : String) : HostM Bool := do
  println ("\n📁 Checking process table at " ++ root ++ "...")
  match ← Requirements.checkProcAccess root with
  | .error e =>
    println ("   ❌ " ++ e.message)
    return false
  | .ok () =>
    match ← enumerateProcfs root with
    | .error e =>
      println ("   ❌ " ++ e.message)
      return false
    | .ok (entries, skipped) =>
      println ("   ✅ Enumerated " ++ toString entries.length ++ " processes")
      if skipped > 0 then
        println ("   ⚠️  " ++ toString skipped ++ " entries could not be read")
      let (g, _) ← refreshGraph Proc.Graph.empty entries
      match g.checkConsistency with
      | none =>
        println ("   ✅ Process graph consistent (" ++ toString g.size ++ " nodes)")
        return true
      | some e =>
        println ("   ❌ Process graph inconsistent: " ++ e)
        return false

def checkDatabase (path : String) (clusterSize : Int) : HostM Bool := do
  println ("\n💾 Checking database at " ++ path ++ "...")
  match ← Requirements.checkDbLocation path with
  | .error e =>
    println ("   ❌ " ++ e.message)
    return false
  | .ok () =>
    match ← openDatabase path clusterSize with
    | .error e =>
      println ("   ❌ " ++ e.message)
      return false
    | .ok db =>
      println ("   ✅ Schema ready, " ++ toString db.rowCount ++ " counter rows")
      return true

def checkReplay (path : String) : HostM Bool := do
  println "\n🎞️  Checking replay file..."
  match ← Requirements.checkReplayFile path with
  | .ok () =>
    println ("   ✅ " ++ path ++ " readable")
    return true
  | .error e =>
    println ("   ❌ " ++ e.message)
    return false

def check (proc db all : Bool) (s : Config.Settings) : HostM Outcome := do
  println "🔍 keytally - System Check"
  println "=========================="
  let procOk ← if proc || all then checkProcesses s.effectiveProcRoot else pure true
  let dbOk ← if db || all then checkDatabase (s.effectiveDbPath (← home)) s.effectiveClusterSize
    else pure true
  let replayOk ← match s.replayFile with
    | some r => checkReplay r
    | none => pure true
  println "\n⚙️  Checking configuration..."
  let configOk ← match ← validateSettings s with
    | .ok () =>
      println "   ✅ Configuration is valid"
      pure true
    | .error e =>
      println ("   ❌ Configuration invalid: " ++ e.message)
      pure false
  println "\n📊 Checking groups..."
  if s.groups.isEmpty then println "   ⚠️  No groups configured"
  else println ("   ✅ " ++ toString s.groups.length ++ " groups loaded")
  println "\n📋 Summary:"
  if procOk && dbOk && replayOk && configOk then
    println "   ✅ All checks passed - collector is ready"
    return .done
  else
    println "   ❌ Some checks failed - please review warnings"
    return .exit 1

end KeystrokeTally.Command
