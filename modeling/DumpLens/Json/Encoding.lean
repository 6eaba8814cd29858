import DumpLens.Json.Reader
import DumpLens.Text.Utf8

/-! Encodings of JSON. A mark of the order of bytes may tell in which units a text is
written. Without one, a text in JSON starts with an ASCII character, so the zeros among its
first bytes tell whether the units have 8, 16 or 32 bits, and in which order the bytes of a
unit stand. -/

namespace DumpLens

inductive JsonEncoding
  | utf8
  | utf16 (bigEndian : Bool)
  | utf32 (bigEndian : Bool)
  deriving DecidableEq, Repr

namespace JsonEncoding

/-- The encoding that a mark of the order of bytes tells. -/
def ofMark? : Bytes → Option JsonEncoding
  | 0x00 :: 0x00 :: 0xfe :: 0xff :: _ => some (.utf32 true)
  | 0xff :: 0xfe :: 0x00 :: 0x00 :: _ => some (.utf32 false)
  | 0xfe :: 0xff :: _ => some (.utf16 true)
  | 0xff :: 0xfe :: _ => some (.utf16 false)
  | _ => none

/-- The encoding that the zeros among the first bytes tell. -/
def ofZeros : Bytes → JsonEncoding
  | first :: second :: third :: fourth :: _ =>
    if first = 0 then (if second = 0 then .utf32 true else .utf16 true)
    else if second = 0 then (if third = 0 ∧ fourth = 0 then .utf32 false else .utf16 false)
    else .utf8
  | [first, second] => if first = 0 then .utf16 true else if second = 0 then .utf16 false else .utf8
  | _ => .utf8

def ofBytes (bytes : Bytes) : JsonEncoding :=
  (ofMark? bytes).getD (ofZeros bytes)

example : ofBytes [0x5b, 0, 0x5d, 0] = .utf16 false := by decide

example : ofBytes [0xff, 0xfe, 0x5b, 0] = .utf16 false := by decide

/-- The number that bytes denote, the most significant one first. -/
def unitOf (bytes : Bytes) : Nat :=
  bytes.foldl (fun number byte => 256 * number + byte.toNat) 0

/-- The units of 16 bits that bytes make up. -/
def units16 (bigEndian : Bool) : Bytes → Option (List Nat)
  | first :: second :: rest =>
    (units16 bigEndian rest).map
      (unitOf (if bigEndian then [first, second] else [second, first]) :: ·)
  | [_] => none
  | [] => some []

/-- The units of 32 bits that bytes make up. They have to be code points. -/
def units32 (bigEndian : Bool) : Bytes → Option (List Nat)
  | first :: second :: third :: fourth :: rest =>
    let unit := unitOf
      (if bigEndian then [first, second, third, fourth] else [fourth, third, second, first])
    if unit < 0x110000 then (units32 bigEndian rest).map (unit :: ·) else none
  | [] => some []
  | _ => none

/-- The mark of the order of bytes, which a text may start with. -/
def byteOrderMark : CodePoint := .character '\ufeff'

/-- The code points of bytes in an encoding, if they have any. -/
def points? (bytes : Bytes) : JsonEncoding → Option CodePoints
  | utf8 => (Utf8.decode? bytes).map CodePoints.ofText
  | utf16 bigEndian => (units16 bigEndian bytes).map Utf16.decode
  | utf32 bigEndian => (units32 bigEndian bytes).map (·.map CodePoint.ofCode)

/-- What bytes in an encoding say, behind the mark of the order of bytes. -/
def decode? (bytes : Bytes) (encoding : JsonEncoding) : Option CodePoints :=
  (encoding.points? bytes).map fun points =>
    if points.head? = some byteOrderMark then points.tail else points

end JsonEncoding

/-- Why bytes hold no value. -/
inductive JsonBytesError
  /-- The bytes are no text. -/
  | notText
  | text (cause : JsonError)
  deriving DecidableEq, Repr

/-- Reads bytes that hold one value. -/
def Json.ofBytes (bytes : Bytes) : Except JsonBytesError Json :=
  match (JsonEncoding.ofBytes bytes).decode? bytes with
  | none => .error .notText
  | some points => (Json.read points).mapError .text

end DumpLens
