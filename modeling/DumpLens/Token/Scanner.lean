import DumpLens.Text.Basic

/-! Scanners: recognisers of a piece at the front of a text. A scanner answers how
many characters the piece has. It never tries a shorter piece when something
behind the piece fails, so every repetition takes all it can. -/

namespace DumpLens

/-- A scanner gives the length of the piece it recognises at the front of a text,
or `none` if there is no such piece. -/
abbrev Scanner := Text → Option Nat

namespace Scanner

/-- One character of a class. -/
def one (member : Char → Bool) : Scanner
  | character :: _ => if member character then some 1 else none
  | [] => none

/-- All characters of a class up to the first other one, possibly none. -/
def run (member : Char → Bool) : Scanner := fun input =>
  some (input.takeWhile member).length

/-- All characters of a class up to the first other one, at least one. -/
def run1 (member : Char → Bool) : Scanner := fun input =>
  match input.takeWhile member with
  | [] => none
  | first :: rest => some (first :: rest).length

/-- A fixed text. -/
def literal (word : Text) : Scanner := fun input =>
  if word.isPrefixOf input then some word.length else none

/-- The first text of a list that stands at the front. -/
def literals (words : List Text) : Scanner := fun input =>
  words.findSome? fun word => literal word input

/-- One piece and another right behind it. -/
def andThen (first second : Scanner) : Scanner := fun input =>
  match first input with
  | some length => (second (input.drop length)).map (length + ·)
  | none => none

/-- Several pieces one behind the other. -/
def sequence : List Scanner → Scanner
  | [] => fun _ => some 0
  | [last] => last
  | first :: rest => first.andThen (sequence rest)

/-- The first of two pieces if it is there, otherwise the second. -/
def orElse (first second : Scanner) : Scanner := fun input =>
  (first input).or (second input)

/-- A piece that may be missing. -/
def optional (scanner : Scanner) : Scanner := fun input =>
  some ((scanner input).getD 0)

/-- A piece whose rest of the text fulfils a condition. -/
def followedBy (scanner : Scanner) (condition : Text → Bool) : Scanner := fun input =>
  match scanner input with
  | some length => if condition (input.drop length) then some length else none
  | none => none

/-- Everything up to the first occurrence of a mark, and the mark. -/
def through (mark : Text) : Scanner
  | [] => if mark.isEmpty then some 0 else none
  | character :: rest =>
    if mark.isPrefixOf (character :: rest) then some mark.length
    else (through mark rest).map (· + 1)

end Scanner

end DumpLens
