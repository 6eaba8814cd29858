import DumpLens.Text.Ascii
import DumpLens.Text.Utf8

/-! Percent escapes: bytes written as `%` and two digits in base sixteen. -/

namespace DumpLens.Percent

/-! ## Writing -/

/-- Bytes that need no escape: letters, digits, and the marks `_.-~/`. -/
def isSafe (byte : UInt8) : Bool :=
  let code := byte.toNat
  (0x41 ≤ code && code ≤ 0x5a) || (0x61 ≤ code && code ≤ 0x7a) || (0x30 ≤ code && code ≤ 0x39) ||
    "_.-~/".toList.any fun mark => mark.toNat == code

/-- A digit in base sixteen. -/
def hexDigit (value : Nat) : Char :=
  "0123456789ABCDEF".toList.getD value '0'

/-- A byte as it is if it needs no escape, otherwise as an escape. -/
def escapeByte (byte : UInt8) : Text :=
  if isSafe byte then [Char.ofNat byte.toNat]
  else ['%', hexDigit (byte.toNat / 16), hexDigit (byte.toNat % 16)]

/-- A text whose encoding has an escape for every byte that needs one. -/
def escape (text : Text) : Text :=
  (Utf8.encode text).flatMap escapeByte

example : escape "a b/é~".toList = "a%20b/%C3%A9~".toList := by decide +kernel

/-! ## Reading -/

/-- The bytes that a text with escapes stands for. What looks like an escape but
is none stands for itself. -/
def bytes : Text → Bytes
  | [] => []
  | '%' :: high :: low :: rest =>
    match hexValue? high, hexValue? low with
    | some high, some low => UInt8.ofNat (16 * high + low) :: bytes rest
    | _, _ => 0x25 :: bytes (high :: low :: rest)
  | character :: rest => UInt8.ofNat character.toNat :: bytes rest

/-- A text with its escapes resolved. Each run of ASCII characters is read as bytes
of its own; pieces that encode no character are replaced. Other characters stand
for themselves. -/
def unescape (text : Text) : Text :=
  match text with
  | [] => []
  | character :: rest =>
    if isAscii character then
      Utf8.repair (bytes (character :: rest.takeWhile isAscii)) ++
        unescape (rest.dropWhile isAscii)
    else character :: unescape rest
termination_by text.length
decreasing_by
  · have shorter := (List.dropWhile_suffix (l := rest) isAscii).length_le
    simp only [List.length_cons]
    omega
  · simp

example : unescape "é%C3%A9%zz".toList = "éé%zz".toList := by decide +kernel

end DumpLens.Percent
