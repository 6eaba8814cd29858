import DumpLens.Text.Basic

/-! Code points. A text that was taken apart into code units of 16 bits can hold halves of
pairs whose partners are missing. Such a half is a code point like a character, but no
encoding has bytes for it. -/

namespace DumpLens

/-- A code point: a character, or a half without its partner. -/
inductive CodePoint
  | character (value : Char)
  /-- The half with the given number, counted from the first one. -/
  | half (index : Fin 0x800)
  deriving DecidableEq, Repr

/-- A text in which halves of pairs can stand alone. -/
abbrev CodePoints := List CodePoint

namespace CodePoint

def firstHalf : Nat := 0xd800

def code : CodePoint → Nat
  | character value => value.toNat
  | half index => firstHalf + index

def ofCode (code : Nat) : CodePoint :=
  if firstHalf ≤ code ∧ code < firstHalf + 0x800 then half (Fin.ofNat 0x800 (code - firstHalf))
  else character (Char.ofNat code)

def isHalf : CodePoint → Bool
  | character _ => false
  | half _ => true

/-- A code point as a character. A half is replaced. -/
def repaired : CodePoint → Char
  | character value => value
  | half _ => '\ufffd'

end CodePoint

/-- Halves in a row that have no encoding: how many code points stand in front of them,
the first of them and how many more there are. -/
structure LoneHalves where
  position : Nat
  first : Fin 0x800
  more : Nat
  deriving DecidableEq, Repr

/-- The halves in words. -/
def LoneHalves.message (halves : LoneHalves) : Text :=
  let place := " in position ".toList ++ Text.ofNat halves.position
  let found := if halves.more = 0 then
      "character '\\u".toList ++ Nat.toDigits 16 (CodePoint.half halves.first).code ++ '\'' :: place
    else "characters".toList ++ place ++ '-' :: Text.ofNat (halves.position + halves.more)
  "'utf-8' codec can't encode ".toList ++ found ++ ": surrogates not allowed".toList

namespace CodePoints

def ofText (text : Text) : CodePoints :=
  text.map .character

/-- A text with a replacement for every half. -/
def repaired (points : CodePoints) : Text :=
  points.map CodePoint.repaired

/-- The text of code points, or the first halves among them. -/
def toText : CodePoints → Except LoneHalves Text
  | [] => .ok []
  | .half index :: rest => .error ⟨0, index, (rest.takeWhile CodePoint.isHalf).length⟩
  | .character value :: rest =>
    match toText rest with
    | .ok text => .ok (value :: text)
    | .error halves => .error { halves with position := halves.position + 1 }

/-- Whether no half stands alone. -/
def isWhole (points : CodePoints) : Bool :=
  points.all (!·.isHalf)

theorem toText_ofText (text : Text) : toText (ofText text) = .ok text := by
  induction text with
  | nil => rfl
  | cons value rest induction =>
    show (match toText (ofText rest) with
      | .ok text => Except.ok (value :: text)
      | .error halves => .error { halves with position := halves.position + 1 }) = _
    rw [induction]

example : (toText [.character 'a', .half 0]).toOption = none := by decide +kernel

example : (LoneHalves.mk 2 0 0).message =
    ("'utf-8' codec can't encode character '\\ud800' in position 2: " ++
      "surrogates not allowed").toList := by
  decide +kernel

end CodePoints

end DumpLens
