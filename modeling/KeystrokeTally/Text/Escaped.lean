import KeystrokeTally.Text.PrintData

namespace KeystrokeTally.Text

def inPrintRanges (ranges : Array (Nat × Nat)) (n : Nat) : Bool :=
  ranges.any fun (lo, hi) => lo ≤ n && n ≤ hi

def isHidden (c : Char) : Bool :=
  inPrintRanges PrintData.extendRanges c.toNat || inPrintRanges PrintData.hiddenRanges c.toNat

def hexEscape (c : Char) : List Char :=
  ['\\', 'u', '\x7b'] ++ Nat.toDigits 16 c.toNat ++ ['\x7d']

def escapeForDiagnostic (c : Char) : List Char :=
  match c with
  | '\t' => ['\\', 't']
  | '\r' => ['\\', 'r']
  | '\n' => ['\\', 'n']
  | '\\' => ['\\', '\\']
  | '"' => ['\\', '"']
  | c => if c.toNat == 0 then ['\\', '0'] else if isHidden c then hexEscape c else [c]

def quoteForDiagnostic (s : String) : String :=
  String.ofList ('"' :: (s.toList.flatMap escapeForDiagnostic ++ ['"']))

/-- A character escaped plainly: printable ASCII as it is, the usual backslash escapes, and
`\u{h}` for everything else. -/
def escapeDefault (c : Char) : String :=
  match c with
  | '\t' => "\\t"
  | '\r' => "\\r"
  | '\n' => "\\n"
  | '\'' => "\\'"
  | '"' => "\\\""
  | '\\' => "\\\\"
  | c => if 0x20 ≤ c.toNat && c.toNat ≤ 0x7E then String.singleton c else String.ofList (hexEscape c)

end KeystrokeTally.Text
