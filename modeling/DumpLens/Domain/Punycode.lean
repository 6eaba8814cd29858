import DumpLens.Text.Reading

/-! Labels of domain names in ASCII. What a label has in ASCII is written first. The other
characters follow in the order of their codes, each as the number of steps from the one in
front of it: a step goes to the next place in the label, and behind the last place to the
next code. -/

namespace DumpLens.Domain.Punycode

/-! ## Numbers -/

/-- The digits below 36, by their values. -/
def digitMarks : Text := "abcdefghijklmnopqrstuvwxyz0123456789".toList

/-- The digit of a value below 36. -/
def digit (value : Nat) : Char :=
  digitMarks.getD value '0'

def value? (digit : Char) : Option Nat :=
  digitMarks.findIdx? (· == digit.toLower)

/-- A digit below this ends a number. Positions are counted in steps of 36, and the bias
tells how large numbers are expected to be. -/
def threshold (bias position : Nat) : Nat :=
  min 26 (max 1 (position - bias))

theorem threshold_pos (bias position : Nat) : 0 < threshold bias position := by
  simp only [threshold]
  omega

theorem carry_lt {bound number : Nat} (positive : 0 < bound) (large : ¬ number < bound) :
    (number - bound) / (36 - bound) < number :=
  Nat.lt_of_le_of_lt (Nat.div_le_self _ _)
    (Nat.sub_lt (Nat.lt_of_lt_of_le positive (Nat.le_of_not_lt large)) positive)

/-- The digits of a number, the least one first. -/
def digits (bias position number : Nat) : Text :=
  let bound := threshold bias position
  if number < bound then [digit number]
  else
    digit (bound + (number - bound) % (36 - bound)) ::
      digits bias (position + 36) ((number - bound) / (36 - bound))
termination_by number
decreasing_by
  rename_i large
  exact carry_lt (threshold_pos bias position) large

/-- Reads a number, the digits of which have the given weight or more. -/
def number? (bias position weight : Nat) : (input : Text) → Option (Reading input Nat)
  | [] => none
  | digit :: rest =>
    match value? digit with
    | none => none
    | some value =>
      let bound := threshold bias position
      if value < bound then some ⟨value * weight, rest, Nat.lt_succ_self _⟩
      else (number? bias (position + 36) (weight * (36 - bound)) rest).map fun reading =>
        (reading.map (value * weight + ·)).widen (Nat.le_succ _)

def biasOf (number : Nat) : Nat :=
  if 455 < number then 36 + biasOf (number / 35) else 36 * number / (number + 38)
termination_by number
decreasing_by
  rename_i large
  exact Nat.div_lt_self (Nat.lt_trans (Nat.succ_pos 454) large) (Nat.le_of_ble_eq_true rfl)

/-- The bias behind a number. The first number is far larger than those behind it. -/
def nextBias (isFirst : Bool) (number length : Nat) : Nat :=
  let share := number / (if isFirst then 700 else 2)
  biasOf (share + share / length)

/-! ## Labels -/

/-- A character that is put into a label: its code, the place, and the length of the label
before. -/
structure Insertion where
  code : Nat
  place : Nat
  length : Nat

/-- How the character at an index of a label is put in, behind all characters with smaller
codes and those with the same code in front of it. -/
def Insertion.ofIndex (label : Text) (index code : Nat) : Insertion :=
  let before := (label.take index).map Char.toNat
  { code
    place := (before.filter (· ≤ code)).length
    length := (label.filter (·.toNat < code)).length + (before.filter (· = code)).length }

/-- The insertions that make up a label, in their order. -/
def insertions (label : Text) : List Insertion :=
  ((label.zipIdx.filter (0x80 ≤ ·.1.toNat)).map fun (character, index) =>
    Insertion.ofIndex label index character.toNat).mergeSort (·.code ≤ ·.code)

/-- The numbers of insertions, from a code and a place on. -/
def numbers (code place bias : Nat) (isFirst : Bool) : List Insertion → Text
  | [] => []
  | insertion :: rest =>
    let steps := (insertion.code - code) * (insertion.length + 1) + insertion.place - place
    digits bias 36 steps ++ numbers insertion.code (insertion.place + 1)
      (nextBias isFirst steps (insertion.length + 1)) false rest

/-- A label in ASCII. -/
def encode (label : Text) : Text :=
  let plain := label.filter (·.toNat < 0x80)
  plain ++ (if plain.isEmpty then [] else ['-']) ++ numbers 0x80 0 72 true (insertions label)

example : encode "bücher".toList = "bcher-kva".toList := by decide +kernel

/-- Puts characters into a label, from a code and a place on. -/
def fill (label : Text) (code place bias : Nat) (isFirst : Bool) (input : Text) : Option Text :=
  if input.isEmpty then some label
  else
    match number? bias 36 1 input with
    | none => none
    | some ⟨steps, rest, _⟩ =>
      let length := label.length + 1
      let code := code + (place + steps) / length
      let place := (place + steps) % length
      if code.isValidChar then
        fill (label.insertIdx place (Char.ofNat code)) code (place + 1)
          (nextBias isFirst steps length) false rest
      else none
termination_by input.length

/-- The label of a text in ASCII. -/
def decode? (text : Text) : Option Text :=
  let behind := (text.reverse.takeWhile (· != '-')).reverse
  fill (text.take (text.length - behind.length - 1)) 0x80 0 72 true behind

example : decode? "bcher-kva".toList = some "bücher".toList := by decide +kernel

end DumpLens.Domain.Punycode
