import KeystrokeTally.Proc.Table
import KeystrokeTally.Text.Blank
import KeystrokeTally.Text.Digits
import KeystrokeTally.Arith.Checked

namespace KeystrokeTally.Proc

def firstIndex {α : Type} (p : α → Bool) (xs : List α) : Option Nat :=
  xs.findIdx? p

def lastIndex {α : Type} (p : α → Bool) (xs : List α) : Option Nat :=
  (xs.reverse.findIdx? p).map fun i => xs.length - 1 - i

def readPid (s : String) : Option Pid :=
  Text.readUnsigned s Word.maxPid

def parseStat (content : String) : Option Entry := do
  let cs := content.toList
  let openAt ← firstIndex (· == '(') cs
  let closeAt ← lastIndex (· == ')') cs
  if closeAt < openAt then none
  else
    let pid ← readPid (Text.trim (String.ofList (cs.take openAt)))
    let name := String.ofList ((cs.take closeAt).drop (openAt + 1))
    match Text.words (String.ofList (cs.drop (closeAt + 1))) with
    | _state :: ppidText :: _ =>
      let ppid ← readPid ppidText
      pure ⟨pid, ppid, name⟩
    | _ => none

end KeystrokeTally.Proc
