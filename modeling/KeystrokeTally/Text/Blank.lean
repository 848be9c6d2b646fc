namespace KeystrokeTally.Text

def isBlank (c : Char) : Bool :=
  let n := c.toNat
  (0x9 ≤ n && n ≤ 0xD) || n == 0x20 || n == 0x85 || n == 0xA0 || n == 0x1680 ||
    (0x2000 ≤ n && n ≤ 0x200A) || n == 0x2028 || n == 0x2029 || n == 0x202F ||
    n == 0x205F || n == 0x3000

def trimChars (cs : List Char) : List Char :=
  ((cs.dropWhile isBlank).reverse.dropWhile isBlank).reverse

def trim (s : String) : String :=
  String.ofList (trimChars s.toList)

def isBlankOnly (s : String) : Bool :=
  s.toList.all isBlank

/-- Splits a character list into its maximal runs of non-blank characters, in order; `word`
holds the run read so far, reversed. -/
def wordsFrom : List Char → List Char → List (List Char)
  | [], word => if word.isEmpty then [] else [word.reverse]
  | c :: cs, word =>
    if isBlank c then
      if word.isEmpty then wordsFrom cs [] else word.reverse :: wordsFrom cs []
    else wordsFrom cs (c :: word)

def wordsOf (cs : List Char) : List (List Char) :=
  wordsFrom cs []

def words (s : String) : List String :=
  (wordsOf s.toList).map String.ofList

theorem trimChars_nil : trimChars [] = [] := rfl

theorem isBlankOnly_iff (s : String) : isBlankOnly s = true ↔ ∀ c ∈ s.toList, isBlank c = true := by
  simp [isBlankOnly]

end KeystrokeTally.Text

namespace KeystrokeTally.Text

def spaces (n : Nat) : String := String.ofList (List.replicate n ' ')

def padRight (s : String) (width : Nat) : String := s ++ spaces (width - s.length)

def padLeft (s : String) (width : Nat) : String := spaces (width - s.length) ++ s

def center (s : String) (width : Nat) : String :=
  let pad := width - s.length
  spaces (pad / 2) ++ s ++ spaces (pad - pad / 2)

theorem padRight_length (s : String) (width : Nat) :
    (padRight s width).length = max s.length width := by
  simp [padRight, spaces]
  omega

end KeystrokeTally.Text
