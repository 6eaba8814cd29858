import DumpLens.Json.Basic
import DumpLens.Number.Double
import DumpLens.Text.Ascii

/-! Values that can be written. Reading takes numbers that are not finite and strings with
halves that stand alone, but neither has a written form in bytes. -/

namespace DumpLens.Json

/-! ## Numbers -/

/-- The number that digits with a sign in front of them denote. -/
def signedNumber (digits : Text) : Int :=
  let size := Nat.ofDigitChars 10 (digits.filter isAsciiDigit) 0
  if digits.head? = some '-' then -size else size

def startsExponent (character : Char) : Bool :=
  character == 'e' || character == 'E'

/-- The double that a number with a point or an exponent denotes. -/
def doubleOf (numeral : Text) : Double :=
  let mantissa := numeral.takeWhile (!startsExponent ·)
  let fraction := (mantissa.dropWhile (· != '.')).tail
  let exponent := signedNumber (numeral.dropWhile (!startsExponent ·)).tail
  Double.ofDecimal (numeral.head? == some '-')
    (Nat.ofDigitChars 10 (mantissa.filter isAsciiDigit) 0) (exponent - fraction.length)

/-- Whether a number is finite. Whole numbers are; the names that stand for numbers do
not denote finite ones. -/
def isFinite (numeral : Text) : Bool :=
  if !numeral.any isAsciiDigit then false
  else if numeral.any fun character => character == '.' || startsExponent character then
    match doubleOf numeral with
    | .finite .. => true
    | _ => false
  else true

example : ["-1e308", "1.8e308", "-Infinity"].map (fun numeral => isFinite numeral.toList) =
    [true, false, false] := by decide +kernel

/-! ## Values -/

mutual

/-- Whether a value can be written. -/
def isWritable : Json → Bool
  | null | boolean _ => true
  | number numeral => isFinite numeral
  | string content => content.isWhole
  | array items => areWritable items
  | object entries => entriesAreWritable entries

def areWritable : List Json → Bool
  | [] => true
  | item :: rest => isWritable item && areWritable rest

def entriesAreWritable : JsonEntries → Bool
  | [] => true
  | (key, value) :: rest => key.isWhole && isWritable value && entriesAreWritable rest

end

end DumpLens.Json
