import DumpLens.Text.CodePoint

/-! Texts in code units of 16 bits. A character beyond the first 65536 is a pair of
units, its halves. -/

namespace DumpLens.Utf16

/-- The first half of a pair. -/
def isHighHalf (unit : Nat) : Bool :=
  0xd800 ≤ unit && unit ≤ 0xdbff

/-- The second half of a pair. -/
def isLowHalf (unit : Nat) : Bool :=
  0xdc00 ≤ unit && unit ≤ 0xdfff

/-- The character of a pair, if two units are one. -/
def joined? (high low : Nat) : Option Char :=
  if isHighHalf high && isLowHalf low then
    some (Char.ofNat (0x10000 + 1024 * (high - 0xd800) + (low - 0xdc00)))
  else none

def decode : List Nat → CodePoints
  | high :: low :: rest =>
    match joined? high low with
    | some character => .character character :: decode rest
    | none => .ofCode high :: decode (low :: rest)
  | [unit] => [.ofCode unit]
  | [] => []

example : decode [0x61, 0xd83d, 0xde00, 0xd83d] =
    [.character 'a', .character '😀', .half 0x3d] := by decide +kernel

end DumpLens.Utf16
