import DumpLens.Number.Double
import DumpLens.Text.Basic

/-! The shortest decimal texts of doubles: as few digits as read back as the same
double, and of those the nearest to it. -/

namespace DumpLens.Double

/-! ## Digits -/

/-- A decimal number `digits * 10 ^ power`. -/
structure Decimal where
  digits : Nat
  power : Int
  deriving DecidableEq, Repr

/-- A finite double as an exact decimal number. -/
def exactDecimal (mantissa : Nat) (exponent : Int) : Decimal :=
  if exponent < 0 then ⟨mantissa * Nat.pow 5 (-exponent).toNat, exponent⟩
  else ⟨mantissa * Nat.pow 2 exponent.toNat, 0⟩

/-- Four times the distances from a double to the ends of the interval of numbers
that are read as it, in units of its exact decimal. Below a power of two the
interval is half as wide. -/
def margins (mantissa : Nat) (exponent : Int) : Nat × Nat :=
  let unit := if exponent < 0 then Nat.pow 5 (-exponent).toNat else Nat.pow 2 exponent.toNat
  (if mantissa = Nat.pow 2 52 ∧ -1074 < exponent then unit else 2 * unit, 2 * unit)

/-- Whether a number, given times four, is read as the double with the given exact
digits. The ends of the interval belong to it if the mantissa is even. -/
def readsBack (exact : Nat) (below above : Nat) (even : Bool) (quadruple : Nat) : Bool :=
  let low := 4 * exact - below
  let high := 4 * exact + above
  if even then low ≤ quadruple && quadruple ≤ high else low < quadruple && quadruple < high

/-- The nearest decimal number without the last `dropped` digits that reads back,
if one does. Of two that are as near the even one is taken. -/
def candidate? (exact below above : Nat) (even : Bool) (dropped : Nat) : Option Nat :=
  let unit := Nat.pow 10 dropped
  let lower := exact / unit
  let upper := lower + 1
  let reads := fun number => readsBack exact below above even (4 * (number * unit))
  let rest := exact % unit
  let lowerFirst := 2 * rest < unit || (2 * rest == unit && lower % 2 == 0)
  if lowerFirst then
    if reads lower then some lower else if reads upper then some upper else none
  else
    if reads upper then some upper else if reads lower then some lower else none

/-- The shortest decimal number that reads back: the first that is found when more
and more digits are kept. -/
def shortest (mantissa : Nat) (exponent : Int) : Decimal :=
  let exact := exactDecimal mantissa exponent
  let (below, above) := margins mantissa exponent
  let size := (Nat.toDigits 10 exact.digits).length
  let found := (List.range size).findSome? fun kept =>
    let dropped := size - (kept + 1)
    (candidate? exact.digits below above (mantissa % 2 == 0) dropped).map fun digits =>
      Decimal.mk digits (exact.power + dropped)
  found.getD exact

/-! ## Texts -/

/-- The digits of a decimal number without zeros at the end, and the place of the
point, counted from the first digit. -/
def pointed (decimal : Decimal) : Text × Int :=
  let digits := Nat.toDigits 10 decimal.digits
  ((digits.reverse.dropWhile (· == '0')).reverse, digits.length + decimal.power)

/-- Digits with a point in them. There is a digit on both sides of the point. -/
def positional (digits : Text) (place : Int) : Text :=
  if place ≤ 0 then "0.".toList ++ List.replicate (-place).toNat '0' ++ digits
  else
    let whole := digits.take place.toNat
    let fraction := digits.drop place.toNat
    whole ++ List.replicate (place.toNat - whole.length) '0' ++
      '.' :: (if fraction.isEmpty then ['0'] else fraction)

/-- Digits with a power of ten, which has a sign and two digits or more. -/
def scientific (digits : Text) (place : Int) : Text :=
  let power := place - 1
  let fraction := digits.drop 1
  digits.take 1 ++ (if fraction.isEmpty then [] else '.' :: fraction) ++
    'e' :: (if power < 0 then '-' else '+') :: (Text.ofNat power.natAbs).leftpad 2 '0'

/-- The text of a finite double without its sign. The power of ten is written where
the point would stand more than 16 digits behind the first digit, or more than
three zeros before it. -/
def magnitudeText (mantissa : Nat) (exponent : Int) : Text :=
  if mantissa = 0 then "0.0".toList
  else
    let (digits, place) := pointed (shortest mantissa exponent)
    if -4 < place ∧ place ≤ 16 then positional digits place else scientific digits place

/-- A sign if there is one to write. -/
def signText (negative : Bool) : Text :=
  if negative then ['-'] else []

def text : Double → Text
  | finite negative mantissa exponent => signText negative ++ magnitudeText mantissa exponent
  | infinite negative => signText negative ++ "inf".toList
  | notANumber => "nan".toList

example : (ofDecimal false 3 (-1)).text = "0.3".toList := by decide +kernel

example : (ofDecimal true 5 (-324)).text = "-5e-324".toList := by decide +kernel

end DumpLens.Double
