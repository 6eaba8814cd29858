/-! Character classes among the first 128 code points. -/

namespace DumpLens

/-- The digits from `0` to `9`. -/
def isAsciiDigit (character : Char) : Bool :=
  '0' ≤ character && character ≤ '9'

/-- The letters from `a` to `z`, small or not. -/
def isAsciiLetter (character : Char) : Bool :=
  ('a' ≤ character && character ≤ 'z') || ('A' ≤ character && character ≤ 'Z')

/-- Letters and digits. -/
def isAsciiAlphanumeric (character : Char) : Bool :=
  isAsciiLetter character || isAsciiDigit character

/-- The first 128 characters. -/
def isAscii (character : Char) : Bool :=
  character.toNat < 0x80

/-- The capitals of a character. A character whose capitals are not all among the first 128
stands for itself. -/
def asciiCapitals : Char → List Char
  | 'ß' => ['S', 'S']
  | 'ı' => ['I']
  | 'ſ' => ['S']
  | 'ﬀ' => ['F', 'F']
  | 'ﬁ' => ['F', 'I']
  | 'ﬂ' => ['F', 'L']
  | 'ﬃ' => ['F', 'F', 'I']
  | 'ﬄ' => ['F', 'F', 'L']
  | 'ﬅ' | 'ﬆ' => ['S', 'T']
  | character => [character.toUpper]

example : "poﬆ".toList.flatMap asciiCapitals = "POST".toList := by decide +kernel

/-- The value of a digit in base sixteen. -/
def hexValue? (character : Char) : Option Nat :=
  if isAsciiDigit character then some (character.toNat - '0'.toNat)
  else if 'a' ≤ character ∧ character ≤ 'f' then some (character.toNat - 'a'.toNat + 10)
  else if 'A' ≤ character ∧ character ≤ 'F' then some (character.toNat - 'A'.toNat + 10)
  else none

/-- The digits in base sixteen. -/
def isHexDigit (character : Char) : Bool :=
  (hexValue? character).isSome

example : hexValue? 'c' = some 12 := by decide

end DumpLens
