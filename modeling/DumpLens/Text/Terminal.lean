import DumpLens.Text.Reading

/-! Control sequences of terminals: an escape character, a bracket, parameters, marks
between them and the end, and one character that ends the sequence. -/

namespace DumpLens.Terminal

/-- The characters of parameters, from `0` to `?`. -/
def isParameter (character : Char) : Bool :=
  '0' ≤ character && character ≤ '?'

/-- The characters between parameters and the end, from the space to `/`. -/
def isBetween (character : Char) : Bool :=
  ' ' ≤ character && character ≤ '/'

/-- The characters that end a sequence, from `@` to `~`. -/
def isFinal (character : Char) : Bool :=
  '@' ≤ character && character ≤ '~'

/-- What follows a control sequence, from behind its bracket on. -/
def afterSequence? (input : Text) : Option (Reading input Char) :=
  match (input.dropWhile isParameter).dropWhile isBetween with
  | [] => none
  | final :: rest => if isFinal final then Reading.make? input final rest else none

/-- A text without its control sequences. -/
def plain (text : Text) : Text :=
  match text with
  | '\x1b' :: '[' :: rest =>
    match afterSequence? rest with
    | some ⟨_, following, _shorter⟩ => plain following
    | none => '\x1b' :: plain ('[' :: rest)
  | character :: rest => character :: plain rest
  | [] => []
termination_by text.length
decreasing_by
  · simp only [List.length_cons]; omega
  · simp
  · simp

example : plain "\x1b[1;31mred\x1b[0m \x1b[>4;2 q\x1b[;".toList = "red \x1b[;".toList := by
  decide +kernel

end DumpLens.Terminal
