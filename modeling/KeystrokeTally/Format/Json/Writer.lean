import KeystrokeTally.Format.Json.Value
import KeystrokeTally.Decimal.Shortest

namespace KeystrokeTally.Json

def hexDigit (n : Nat) : Char :=
  if n < 10 then Char.ofNat ('0'.toNat + n) else Char.ofNat ('a'.toNat + n - 10)

def escapeChar (c : Char) : List Char :=
  match c with
  | '"' => ['\\', '"']
  | '\\' => ['\\', '\\']
  | '\n' => ['\\', 'n']
  | '\r' => ['\\', 'r']
  | '\t' => ['\\', 't']
  | c =>
    if c.toNat == 8 then ['\\', 'b']
    else if c.toNat == 12 then ['\\', 'f']
    else if c.toNat < 0x20 then ['\\', 'u', '0', '0', hexDigit (c.toNat / 16), hexDigit (c.toNat % 16)]
    else [c]

def quote (s : String) : String :=
  String.ofList ('"' :: (s.toList.flatMap escapeChar ++ ['"']))

def Number.render : Number → String
  | .nat n => toString n
  | .neg i => toString i
  | .float x => (Decimal.shortest x).getD "null"

mutual

def Value.compact : Value → String
  | .null => "null"
  | .bool b => if b then "true" else "false"
  | .num n => n.render
  | .str s => quote s
  | .arr xs => "[" ++ compactElems xs ++ "]"
  | .obj ms => "\x7b" ++ compactMembers ms ++ "\x7d"

def compactElems : List Value → String
  | [] => ""
  | [x] => x.compact
  | x :: xs => x.compact ++ "," ++ compactElems xs

def compactMembers : List (String × Value) → String
  | [] => ""
  | [(k, v)] => quote k ++ ":" ++ v.compact
  | (k, v) :: ms => quote k ++ ":" ++ v.compact ++ "," ++ compactMembers ms

end

def indent (level : Nat) : String :=
  String.ofList (List.replicate (2 * level) ' ')

mutual

def Value.pretty (level : Nat) : Value → String
  | .arr [] => "[]"
  | .obj [] => "\x7b\x7d"
  | .arr xs => "[\n" ++ prettyElems (level + 1) xs ++ "\n" ++ indent level ++ "]"
  | .obj ms => "\x7b\n" ++ prettyMembers (level + 1) ms ++ "\n" ++ indent level ++ "\x7d"
  | v => v.compact

def prettyElems (level : Nat) : List Value → String
  | [] => ""
  | [x] => indent level ++ x.pretty level
  | x :: xs => indent level ++ x.pretty level ++ ",\n" ++ prettyElems level xs

def prettyMembers (level : Nat) : List (String × Value) → String
  | [] => ""
  | [(k, v)] => indent level ++ quote k ++ ": " ++ v.pretty level
  | (k, v) :: ms => indent level ++ quote k ++ ": " ++ v.pretty level ++ ",\n" ++ prettyMembers level ms

end

def Value.render (v : Value) : String :=
  v.pretty 0

end KeystrokeTally.Json
