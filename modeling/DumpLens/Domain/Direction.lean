import DumpLens.Domain.Marks

/-! Directions of writing in domain names. A label with anything that is written from right
to left starts with such a letter, and all of it is written that way. -/

namespace DumpLens.Domain

/-- How a character takes part in the direction of a label. -/
inductive Direction
  | leftToRight
  | rightToLeft
  | digit
  /-- A digit that is written in texts from right to left alone. -/
  | arabicDigit
  | mark
  /-- A character without a direction of its own. -/
  | neutral
  deriving DecidableEq, Repr

/-- The code points of the letters that are written from right to left. -/
def leftwardTable : CodeTable := [
  (0x5d0, 0x5f4), (0x620, 0x64a), (0x66e, 0x66f), (0x671, 0x6d5), (0x6e5, 0x6e6), (0x6ee, 0x6ef),
  (0x6fa, 0x710), (0x712, 0x72f), (0x74d, 0x7a5), (0x7b1, 0x7ea), (0x7f4, 0x7f5), (0x800, 0x815),
  (0x81a, 0x81a), (0x824, 0x824), (0x828, 0x828), (0x840, 0x858), (0x860, 0x88e), (0x8a0, 0x8c9),
  (0xfe73, 0xfe73), (0x10800, 0x10a00), (0x10a10, 0x10a35), (0x10a60, 0x10ae4), (0x10b00, 0x10d23),
  (0x10e80, 0x10ea9), (0x10eb0, 0x10f45), (0x10f70, 0x10f81), (0x10fb0, 0x10ff6),
  (0x1e800, 0x1e8c4), (0x1e900, 0x1e943), (0x1e94b, 0x1e959)]

/-- The code points of characters without a direction of their own. -/
def neutralTable : CodeTable := [(0x2d, 0x2d), (0xb7, 0xb7), (0x2b9, 0x2ba), (0x2c6, 0x2cf),
  (0x2ec, 0x2ec), (0x375, 0x375), (0x2e2f, 0x2e2f), (0x30fb, 0x30fb), (0xa67f, 0xa67f),
  (0xa717, 0xa71f), (0xa788, 0xa788)]

/-- The digits that are written in texts from right to left alone. -/
def arabicDigitTable : CodeTable := [(0x660, 0x669), (0x10d30, 0x10d39)]

/-- The digits that are written in texts of both directions. -/
def digitTable : CodeTable := [(0x30, 0x39), (0x6f0, 0x6f9)]

def Direction.of (character : Char) : Direction :=
  if leftwardTable.contains character then .rightToLeft
  else if arabicDigitTable.contains character then .arabicDigit
  else if digitTable.contains character then .digit
  else if isMark character then .mark
  else if neutralTable.contains character then .neutral
  else .leftToRight

/-- Whether directions are those of a label from right to left: a letter stands in front,
a letter or a digit stands at the end, marks aside, and the digits are of one kind. -/
def Direction.areLeftward (directions : List Direction) : Bool :=
  directions.head? == some .rightToLeft && !directions.contains .leftToRight &&
    [.rightToLeft, .digit, .arabicDigit].contains
      ((directions.reverse.dropWhile (· == .mark)).head?.getD .neutral) &&
    !(directions.contains .digit && directions.contains .arabicDigit)

def isDirected (label : Text) : Bool :=
  let directions := label.map Direction.of
  if directions.any fun direction => direction == .rightToLeft || direction == .arabicDigit then
    Direction.areLeftward directions
  else true

example : ["אב1", "1אב", "אb", "ab1"].map (fun label => isDirected label.toList) =
    [true, false, false, true] := by decide +kernel

end DumpLens.Domain
