import DumpLens.Text.Blank
import DumpLens.Text.Digit

/-! Numerals: runs of decimal digits that stand for natural numbers. A numeral of
more than `Numeral.limit` digits, leading zeros included, is refused, and no number that
would need one has a text. -/

namespace DumpLens

/-- The refusal of a numeral, with the number of digits it has. -/
structure Overlong where
  digits : Nat
  deriving DecidableEq, Repr

namespace Numeral

/-- The most digits a numeral may have. -/
def limit : Nat := 4300

/-- The number that a run of digits denotes in base ten. -/
def value (digits : Text) : Nat :=
  digits.foldl (fun number digit => 10 * number + (digitValue? digit).getD 0) 0

/-- Reads a run of digits unless it is too long. -/
def read (digits : Text) : Except Overlong Nat :=
  if digits.length ≤ limit then .ok (value digits) else .error ⟨digits.length⟩

/-! ## Writing -/

/-- The numeral of an integer, unless it would be too long. -/
def write? (number : Int) : Option Text :=
  if number.natAbs < Nat.pow 10 limit then some (Text.ofInt number) else none

/-- The refusal to write a numeral in words. -/
def tooLargeMessage : Text :=
  "Exceeds the limit (".toList ++ Text.ofNat limit ++
    " digits) for integer string conversion; ".toList ++
    "use sys.set_int_max_str_digits() to increase the limit".toList

/-! ## Signed numerals -/

/-- The blanks that may surround a signed numeral. Separator codes are not among them. -/
def isPadding (character : Char) : Bool :=
  isBlank character && !(0x1c ≤ character.toNat && character.toNat ≤ 0x1f)

/-- A text without the blanks around it. -/
def bare (text : Text) : Text :=
  ((text.dropWhile isPadding).reverse.dropWhile isPadding).reverse

/-- Reads digits with single underscores between some of them. -/
def grouped? (text : Text) : Option Nat :=
  let groups := text.splitOn '_'
  if groups.all fun group => !group.isEmpty && group.all isDigit then
    (read groups.flatten).toOption
  else none

/-- Reads an integer: digits, with a sign if need be. -/
def integer? (text : Text) : Option Int :=
  match bare text with
  | '-' :: digits => (grouped? digits).map fun number => -(number : Int)
  | '+' :: digits => (grouped? digits).map Int.ofNat
  | digits => (grouped? digits).map Int.ofNat

example : integer? " -1_000\n".toList = some (-1000) := by decide +kernel

example : integer? "1__0".toList = none := by decide +kernel

end Numeral

/-- The refusal in words. -/
def Overlong.message (refusal : Overlong) : Text :=
  "Exceeds the limit (".toList ++ Text.ofNat Numeral.limit ++
    " digits) for integer string conversion: value has ".toList ++ Text.ofNat refusal.digits ++
    " digits; use sys.set_int_max_str_digits() to increase the limit".toList

end DumpLens
