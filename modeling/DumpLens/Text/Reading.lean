import DumpLens.Text.Basic

/-! Readings: what was read at the front of an input, with the rest of the input. -/

namespace DumpLens

/-- A value that was read at the front of an input, such as a text. The rest is shorter
than the input, which lets readers call themselves on it. -/
structure Reading (input : List σ) (α : Type) where
  value : α
  rest : List σ
  shorter : rest.length < input.length

namespace Reading

/-- The reading of something made from what was read. -/
def map {input : List σ} (transform : α → β) (reading : Reading input α) : Reading input β :=
  ⟨transform reading.value, reading.rest, reading.shorter⟩

/-- The reading of a value, if the rest is shorter than the input. -/
def make? (input : List σ) (value : α) (rest : List σ) : Option (Reading input α) :=
  if shorter : rest.length < input.length then some ⟨value, rest, shorter⟩ else none

theorem length_drop_lt (first : σ) (rest : List σ) (count : Nat) :
    (rest.drop count).length < (first :: rest).length :=
  Nat.lt_succ_of_le (List.drop_suffix count rest).length_le

/-- The reading of a value that was written with the given number of characters. Of an
input that is not empty at least one is read. -/
def drop? (input : List σ) (value : α) (count : Nat) : Option (Reading input α) :=
  match input with
  | [] => none
  | first :: rest => some ⟨value, rest.drop (count - 1), length_drop_lt first rest (count - 1)⟩

/-- A reading of an input is one of every input that is at least as long. -/
def widen {input wider : List σ} (reading : Reading input α)
    (longer : input.length ≤ wider.length) : Reading wider α :=
  ⟨reading.value, reading.rest, Nat.lt_of_lt_of_le reading.shorter longer⟩

end Reading

/-- What is left after the members of a class is not longer. -/
theorem length_dropWhile_le (member : σ → Bool) (input : List σ) :
    (input.dropWhile member).length ≤ input.length :=
  (List.dropWhile_suffix (l := input) member).length_le

end DumpLens
