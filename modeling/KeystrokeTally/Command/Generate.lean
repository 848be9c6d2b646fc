import KeystrokeTally.Command.Outcome
import KeystrokeTally.Random.Generator
import KeystrokeTally.Replay.Record
import KeystrokeTally.Config.Basic
import KeystrokeTally.Arith.Checked

namespace KeystrokeTally.Command

open HostM
open Replay (Record)

def firstSyntheticPid : Nat := 40000

def firstWindow : Nat := 0x100

/-- The generated declarations so far: the records, and the next free pid. -/
structure Declared where
  records : List Record
  nextPid : Nat

namespace Declared

def spawn (d : Declared) (ppid : Nat) (name : String) : Declared × Nat :=
  ({ records := d.records ++ [.process d.nextPid ppid name], nextPid := d.nextPid + 1 }, d.nextPid)

/-- Declares what makes window `w` match group `g` through its first non-empty tier; whether it
declared a window. -/
def group (d : Declared) (g : Config.GroupSpec) (w : Nat) : Declared × Bool :=
  let declared : Option (Declared × String × Option Int) :=
    match g.terminalProcesses.head?, g.processes.head?, g.windowClasses.head? with
    | some name, _, _ =>
      let (d, term) := d.spawn 1 "xterm"
      let (d, shell) := d.spawn term "bash"
      let (d, _) := d.spawn shell name
      some (d, "XTerm", some (term : Int))
    | none, some name, _ =>
      let (d, pid) := d.spawn 1 name
      some (d, name ++ "-window", some (pid : Int))
    | none, none, some cls => some (d, cls, none)
    | none, none, none => none
  match declared with
  | some (d, cls, owner) => ({ d with records := d.records ++ [.window w cls owner] }, true)
  | none => (d, false)

end Declared

def timeOverflowPlace : String := "src/commands/generate.rs:109:18"

def drawMany (n : Nat) (acc : Array Nat) : Nat → Random.Generator → Array Nat × Random.Generator
  | 0, g => (acc, g)
  | k + 1, g =>
    let (x, g) := g.below n
    drawMany n (acc.push x) k g

/-- The key presses on `windows` at the sorted times, each drawing its window, appended to `acc`;
`focused` is the window that has the focus. -/
def pressKeys (windows : List Nat) (acc : Array Record) :
    List Int → Option Nat → Random.Generator → Array Record × Random.Generator
  | [], _, g => (acc, g)
  | t :: ts, focused, g =>
    let (i, g) := g.below windows.length
    let w := windows.getD i 0
    let acc := if focused == some w then acc else acc.push (.focusIn w)
    pressKeys windows (acc.push (.keyPress w (some t))) ts (some w) g

/-- The records of a synthetic replay, with the windows declared and the matched ones among them;
the overflow fault when a key press time does not fit 64 bits. -/
def buildReplay (groups : List Config.GroupSpec) (keypresses : Nat) (start spanSecs : Int)
    (g : Random.Generator) : Except Fault (List Record × Nat × Nat) := do
  let init : Declared × List Nat := ({ records := [.process 1 0 "init"], nextPid := firstSyntheticPid }, [])
  let (d, windows) := groups.zipIdx.foldl (fun (d, ws) (grp, i) =>
    let (d, made) := d.group grp (firstWindow + i)
    (d, if made then ws ++ [firstWindow + i] else ws)) init
  let unmatched := firstWindow + groups.length
  let records := d.records ++ [.window unmatched "Unmatched" none]
  let all := windows ++ [unmatched]
  let (offsets, g) := drawMany (max spanSecs 1).toNat #[] keypresses g
  let times ← offsets.toList.mapM fun (o : Nat) => Word.add start (o : Int)
  let (presses, _) := pressKeys all #[] (times.mergeSort (· ≤ ·)) none g
  pure (records ++ presses.toList, all.length, windows.length)

/-- Writes a synthetic replay file of `keypresses` key presses over `spanSecs` seconds from
`start` (the span before the present moment, here taken as time 0, when absent), seeded by
`seed` (0 when absent). -/
def generateReplay (output : String) (keypresses : Nat) (spanSecs : Int) (start : Option Int)
    (seed : Option Nat) (s : Config.Settings) : HostM Outcome := do
  if spanSecs ≤ 0 then
    return .failed (.message ("span must be positive, got " ++ toString spanSecs))
  let start := start.getD (-spanSecs)
  let g := Random.Generator.ofSeed (UInt64.ofNat (seed.getD 0))
  if s.groups.isEmpty then
    println "⚠️  No groups configured - every generated key press will be unmatched"
  let (records, windows, matched) ← match buildReplay s.groups keypresses start spanSecs g with
    | .ok r => pure r
    | .error f => return .panicked f timeOverflowPlace
  log .debug "keytally::commands::generate"
    ("Generated " ++ toString windows ++ " windows, " ++ toString matched ++ " matched")
  match (← disk).writeText output (Replay.writeRecords records) with
  | .error e => return .failed (.io e)
  | .ok d =>
    setDisk d
    println ("✅ Replay written to: " ++ output ++ " (" ++ toString records.length ++ " records, " ++
      toString keypresses ++ " key presses)")
    println ("   Run it with: keytally --replay-file " ++ output)
    return .done

end KeystrokeTally.Command
