import DumpLens.Text.Basic
import DumpLens.Text.CodeTable

/-! Blank characters: the code points that the Unicode standard and the control
codes for separators count as white space. -/

namespace DumpLens

/-- The code points of blank characters. -/
def blankTable : CodeTable :=
  [(0x9, 0xd), (0x1c, 0x20), (0x85, 0x85), (0xa0, 0xa0), (0x1680, 0x1680), (0x2000, 0x200a),
    (0x2028, 0x2029), (0x202f, 0x202f), (0x205f, 0x205f), (0x3000, 0x3000)]

/-- Blank characters separate words; a newline is one of them. -/
def isBlank (character : Char) : Bool :=
  blankTable.contains character

example : isBlank ' ' && isBlank '\n' && isBlank '\x1c' && isBlank '\u2003' := by decide

example : isBlank '\u200b' = false := by decide

/-- A text without the blanks at its ends. -/
def Text.trim (text : Text) : Text :=
  ((text.dropWhile isBlank).reverse.dropWhile isBlank).reverse

example : Text.trim " a b\n".toList = "a b".toList := by decide +kernel

end DumpLens
