import KeystrokeTally.Proc.Table
import KeystrokeTally.Arith.Checked
import KeystrokeTally.Text.Lower

namespace KeystrokeTally.Window

open Proc (Pid)

/-- A windowing-system handle. -/
abbrev Handle := Nat

/-- The class name and owner of a window. -/
structure Metadata where
  className : String
  owner : Option Pid
  deriving DecidableEq, Repr, Inhabited

def Metadata.make (className : String) (owner : Option Pid) : Metadata :=
  ⟨className, owner.filter (· != 0)⟩

def ownerOfRaw (raw : Int) : Option Pid :=
  if 0 < raw ∧ raw ≤ (Word.maxPid : Int) then some raw.toNat else none

def hexDigits (n : Nat) : String :=
  String.ofList (Nat.toDigits 16 n)

def display (w : Handle) : String :=
  "0x" ++ hexDigits w

def terminalSuffixes : List String := ["term", "rxvt", "konsole", "xterminal"]

def isTerminalClass (className : String) : Bool :=
  let lowered := (Text.lower className).toList
  terminalSuffixes.any fun suffix => suffix.toList.isSuffixOf lowered

end KeystrokeTally.Window
