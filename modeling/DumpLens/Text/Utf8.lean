import DumpLens.Text.Basic

/-! The UTF-8 encoding of texts, and what to make of bytes that are not UTF-8. -/

namespace DumpLens

/-- The bytes of a file or of what a program writes. -/
abbrev Bytes := List UInt8

namespace Utf8

def encode (text : Text) : Bytes :=
  text.flatMap String.utf8EncodeChar

/-! ## Decoding

An encoded character is a lead byte and up to three more, each from a range of
its own. The ranges shut out characters that have a shorter encoding, surrogates
and code points that are too large. -/

/-- What a lead byte announces: its share of the code point and the ranges of the
bytes that have to follow. -/
def lead (byte : Nat) : Option (Nat × List (Nat × Nat)) :=
  if byte < 0x80 then some (byte, [])
  else if byte < 0xc2 then none
  else if byte < 0xe0 then some (byte - 0xc0, [(0x80, 0xbf)])
  else if byte = 0xe0 then some (0, [(0xa0, 0xbf), (0x80, 0xbf)])
  else if byte = 0xed then some (0xd, [(0x80, 0x9f), (0x80, 0xbf)])
  else if byte < 0xf0 then some (byte - 0xe0, [(0x80, 0xbf), (0x80, 0xbf)])
  else if byte = 0xf0 then some (0, [(0x90, 0xbf), (0x80, 0xbf), (0x80, 0xbf)])
  else if byte < 0xf4 then some (byte - 0xf0, [(0x80, 0xbf), (0x80, 0xbf), (0x80, 0xbf)])
  else if byte = 0xf4 then some (4, [(0x80, 0x8f), (0x80, 0xbf), (0x80, 0xbf)])
  else none

/-- Takes the bytes that have to follow. The first byte out of its range ends the
sequence, and stays in the rest. -/
def follow (code : Nat) : List (Nat × Nat) → Bytes → Option Char × Bytes
  | [], rest => (some (Char.ofNat code), rest)
  | _ :: _, [] => (none, [])
  | (low, high) :: ranges, byte :: rest =>
    if low ≤ byte.toNat ∧ byte.toNat ≤ high then
      follow (64 * code + (byte.toNat - 0x80)) ranges rest
    else (none, byte :: rest)

theorem follow_length (code : Nat) (ranges : List (Nat × Nat)) (bytes : Bytes) :
    (follow code ranges bytes).2.length ≤ bytes.length := by
  fun_induction follow code ranges bytes with
  | case1 => simp
  | case2 => simp
  | case3 _ _ _ _ _ _ _ induction => simp only [List.length_cons]; omega
  | case4 => simp

/-- The characters of bytes, with `none` for every piece that encodes none. A
piece is as long as it agrees with some encoding. -/
def decode (bytes : Bytes) : List (Option Char) :=
  match bytes with
  | [] => []
  | byte :: rest =>
    match lead byte.toNat with
    | some (code, ranges) =>
      (follow code ranges rest).1 :: decode (follow code ranges rest).2
    | none => none :: decode rest
termination_by bytes.length
decreasing_by
  · have shorter := follow_length code ranges rest
    simp only [List.length_cons]
    omega
  · simp

/-- The text of bytes that are UTF-8 throughout. -/
def decode? (bytes : Bytes) : Option Text :=
  (decode bytes).mapM id

/-- The text of any bytes, with a replacement character for every piece that
encodes none. -/
def repair (bytes : Bytes) : Text :=
  (decode bytes).map fun character => character.getD '\ufffd'

example : repair [0x6f, 0x6b, 0xff, 0xe2, 0x82, 0x41] = "ok\ufffd\ufffdA".toList := by
  decide +kernel

end Utf8

end DumpLens
