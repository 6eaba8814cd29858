import DumpLens.Domain.Direction
import DumpLens.Domain.Punycode

/-! Names of hosts in all scripts. A name has labels with dots between them, and each label
has a form in ASCII that is not too long. -/

namespace DumpLens.Domain

/-! ## Characters that depend on their neighbours -/

/-- Characters of the Greek script. -/
def greekTable : CodeTable := [(0x370, 0x3e1), (0x3f3, 0x3ff), (0x1d26, 0x1d2a), (0x1f00, 0x1ffa),
  (0x2126, 0x2126), (0xab65, 0xab65)]

/-- Characters of the Hebrew script. -/
def hebrewTable : CodeTable := [(0x591, 0x5f4), (0xfb1e, 0xfb1e)]

/-- Characters of the Japanese scripts, the Chinese characters among them. -/
def japaneseTable : CodeTable := [(0x3005, 0x3005), (0x3007, 0x3007), (0x3041, 0x3096),
  (0x309d, 0x309e), (0x30a1, 0x30fa), (0x30fd, 0x30fe), (0x31f0, 0x31ff), (0x3400, 0x9fff),
  (0xfa0e, 0xfa29), (0x16fe3, 0x16fe3), (0x16ff0, 0x16ff1), (0x1aff0, 0x1b122), (0x1b150, 0x1b152),
  (0x1b164, 0x1b167), (0x20000, 0x3134a)]

def isDigitOf (first : Nat) (character : Char) : Bool :=
  first ≤ character.toNat && character.toNat < first + 10

/-- Whether a character may stand in a label between what is before it, the nearest first,
and what is behind it. -/
def isAllowed (before : Text) (character : Char) (behind : Text) : Bool :=
  match character with
  | '·' => before.head?.any ("lL".toList.contains ·) && behind.head?.any ("lL".toList.contains ·)
  | '\u0375' => behind.head?.any greekTable.contains
  | '\u05f3' | '\u05f4' => before.head?.any hebrewTable.contains
  | '・' => before.any japaneseTable.contains || behind.any japaneseTable.contains
  | other =>
    if isDigitOf 0x660 other then !(before ++ behind).any (isDigitOf 0x6f0)
    else if isDigitOf 0x6f0 other then !(before ++ behind).any (isDigitOf 0x660)
    else isLetter other

/-- Whether all characters may stand behind others, the nearest of which comes first. -/
def areAllowed (before : Text) : Text → Bool
  | [] => true
  | character :: rest =>
    isAllowed before character rest && areAllowed (character :: before) rest

/-! ## Labels -/

/-- No hyphen stands at an end of a label, and no two stand behind its second character. -/
def isHyphenated (label : Text) : Bool :=
  label.head? != some '-' && label.getLast? != some '-' && (label.drop 2).take 2 != "--".toList

/-- How labels in ASCII start that stand for others. -/
def asciiMark : Text := "xn--".toList

def isLabel (label : Text) : Bool :=
  !label.isEmpty && areAllowed [] label && isHyphenated label && !label.head?.any isMark &&
    isSettled label && isDirected label

def isAsciiLabel (label : Text) : Bool :=
  asciiMark.isPrefixOf (label.map Char.toLower) && label.all isAscii &&
    label.getLast? != some '-' &&
    (Punycode.decode? (label.drop asciiMark.length)).any isLabel

def asciiForm (label : Text) : Text :=
  if label.all isAscii then label else asciiMark ++ Punycode.encode label

/-! ## Names -/

/-- The dots between labels. -/
def isDot (character : Char) : Bool :=
  ".。．｡".toList.contains character

/-- The labels of a name. A dot may end the name. -/
def labels (name : Text) : List Text :=
  let labels := name.splitOnP isDot
  if labels.getLast? = some [] then labels.dropLast else labels

/-- Whether a text is the name of a host. -/
def isName (name : Text) : Bool :=
  let forms := (labels name).map asciiForm
  (labels name).all (fun label => isLabel label || isAsciiLabel label) &&
    forms.all (·.length ≤ 63) && (['.'].intercalate forms).length ≤ 253

example : ["é.x.", "é..x", "-é", "e\u0301", "é_", "l·l"].map (fun name => isName name.toList) =
    [true, false, false, false, false, true] := by decide +kernel

end DumpLens.Domain
