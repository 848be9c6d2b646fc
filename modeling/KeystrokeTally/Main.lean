import KeystrokeTally.Launch

open KeystrokeTally

def readSeed (path : String) : IO (Option Disk.Tree.Seed) := do
  try
    let text ← IO.FS.readFile path
    return some ⟨path, some text, none⟩
  catch _ => return none

def loadFiles (d : Disk.Tree) (paths : List String) : IO Disk.Tree := do
  let mut seeds := []
  for p in paths do
    if let some s ← readSeed p then seeds := seeds ++ [s]
  return d.plant seeds

partial def readAll (s : IO.FS.Stream) (acc : String) : IO String := do
  let line ← s.getLine
  if line.isEmpty then return acc else readAll s (acc ++ line)

def main (args : List String) : IO UInt32 := do
  let home := (← IO.getEnv "HOME").filter fun h => !h.isEmpty
  let d ← loadFiles Disk.Tree.empty (Launch.inputFiles Disk.Tree.empty home args)
  let d ← loadFiles d (Launch.inputFiles d home args)
  let stdin ← if Launch.readsInput d home args then readAll (← IO.getStdin) "" else pure ""
  let (code, h) := (Launch.run args none).run { disk := d, home, stdin }
  IO.print h.console.out
  IO.eprint h.console.err
  for (path, text) in Disk.Tree.changedTexts d h.disk do
    try IO.FS.writeFile path text
    catch e => IO.eprintln (toString e)
  return code.toUInt32
