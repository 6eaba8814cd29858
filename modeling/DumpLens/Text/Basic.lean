/-! Texts as lists of characters: lines, line endings and decimal numbers. -/

namespace DumpLens

/-- A text is the list of its characters, so lengths and columns count
characters. -/
abbrev Text := List Char

namespace Text

/-! ## Lines -/

/-- The pieces of a text between its newlines. A text with `n` newlines has
`n + 1` lines, the last of which may be empty. -/
def lines (text : Text) : List Text :=
  text.splitOn '\n'

/-- Lines put together again with one newline between neighbours. -/
def unlines (lines : List Text) : Text :=
  ['\n'].intercalate lines

example : lines "a\n\nb".toList = ["a".toList, [], "b".toList] := by decide +kernel

/-- Writes every line ending as a newline: a carriage return counts as one
ending together with a newline right after it, and as one on its own. -/
def normalizeEndings : Text → Text
  | '\r' :: '\n' :: rest => '\n' :: normalizeEndings rest
  | '\r' :: rest => '\n' :: normalizeEndings rest
  | character :: rest => character :: normalizeEndings rest
  | [] => []

example : normalizeEndings "a\r\nb\rc\r\r\nd".toList = "a\nb\nc\n\nd".toList := by decide +kernel

/-! ## Numbers -/

/-- The decimal digits of a natural number. -/
def ofNat (number : Nat) : Text :=
  Nat.toDigits 10 number

/-- The decimal digits of an integer, after a minus sign if it is negative. -/
def ofInt : Int → Text
  | .ofNat number => ofNat number
  | .negSucc number => '-' :: ofNat (number + 1)

end Text

end DumpLens
