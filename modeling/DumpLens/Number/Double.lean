/-! Floating point numbers with 53 binary digits, as exact values. -/

namespace DumpLens

/-- A double. A finite one is `mantissa * 2 ^ exponent`, with the exponent at least
-1074 and the mantissa below `2 ^ 53`. -/
inductive Double
  | finite (negative : Bool) (mantissa : Nat) (exponent : Int)
  | infinite (negative : Bool)
  | notANumber
  deriving DecidableEq, Repr

namespace Double

/-- The quotient of two numbers rounded to the nearest whole number, halves to the
even one. -/
def roundQuotient (numerator denominator : Nat) : Nat :=
  let quotient := numerator / denominator
  let twice := 2 * (numerator % denominator)
  if denominator < twice ∨ (twice = denominator ∧ quotient % 2 = 1) then quotient + 1 else quotient

/-- A positive quotient in units of a power of two, as numerator and denominator. -/
def scale (numerator denominator : Nat) (exponent : Int) : Nat × Nat :=
  (numerator * Nat.pow 2 (-exponent).toNat, denominator * Nat.pow 2 exponent.toNat)

/-- The exponent with which a positive quotient has 53 binary digits, or the least
exponent there is. -/
def exponentFor (numerator denominator : Nat) : Int :=
  let size : Int := (Nat.log2 numerator : Int) - Nat.log2 denominator
  let low := max (size - 53) (-1074)
  let (numerator, denominator) := scale numerator denominator low
  if numerator < Nat.pow 2 53 * denominator then low else low + 1

/-- The double nearest to a quotient of positive numbers. Where two are as near, the
one with the even mantissa is taken; beyond the largest double it is infinite. -/
def ofQuotient (negative : Bool) (numerator denominator : Nat) : Double :=
  let exponent := exponentFor numerator denominator
  let (numerator, denominator) := scale numerator denominator exponent
  let rounded := roundQuotient numerator denominator
  let (mantissa, exponent) :=
    if rounded < Nat.pow 2 53 then (rounded, exponent) else (Nat.pow 2 52, exponent + 1)
  if 971 < exponent then .infinite negative else .finite negative mantissa exponent

/-- The double nearest to `digits * 10 ^ power`. -/
def ofDecimal (negative : Bool) (digits : Nat) (power : Int) : Double :=
  let size : Int := (Nat.toDigits 10 digits).length + power
  if digits = 0 ∨ size < -400 then .finite negative 0 (-1074)
  else if 400 < size then .infinite negative
  else ofQuotient negative (digits * Nat.pow 10 power.toNat) (Nat.pow 10 (-power).toNat)

end Double

end DumpLens
