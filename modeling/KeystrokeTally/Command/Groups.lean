import KeystrokeTally.Command.Outcome
import KeystrokeTally.Classify.Group

namespace KeystrokeTally.Command

open HostM

def printPatterns (title : String) (patterns : List String) : HostM Unit := do
  unless patterns.isEmpty do
    println ("   ├─ 📂 " ++ title)
    for p in patterns do
      println ("   │  ├─ 🔍 Matches: " ++ p)

def examples (g : Classify.Group) : List String :=
  (g.terminalProcesses ++ g.processes ++ g.windowClasses).take 3

def groups (verbose : Bool) (rules : Classify.Rules) : HostM Outcome := do
  println "📊 keytally - Application Groups"
  println "================================"
  if rules.isEmpty then
    println "\n⚠️  No groups configured - add a `groups` list to the config file"
    return .done
  for g in rules.groups do
    println ("\n🏷️  " ++ g.label ++ " (id " ++ toString g.id ++ ")")
    println (String.join (List.replicate 50 "─"))
    if verbose then
      printPatterns "Terminal processes" g.terminalProcesses
      printPatterns "Owner processes" g.processes
      printPatterns "Window classes" g.windowClasses
    else
      println ("   ├─ " ++ toString g.terminalProcesses.length ++ " terminal, " ++ toString g.processes.length ++
        " process, " ++ toString g.windowClasses.length ++ " window class patterns")
      let ex := examples g
      unless ex.isEmpty do
        println ("   └─ Examples: " ++ ", ".intercalate ex)
  let total := (rules.groups.map Classify.Group.patternCount).foldl (· + ·) 0
  println ("\n📋 Total: " ++ toString total ++ " patterns in " ++ toString rules.size ++ " groups")
  return .done

end KeystrokeTally.Command
