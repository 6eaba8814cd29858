import DumpLens.Span.Basic
import DumpLens.Text.Numeral

/-! Ranges of an editor: pairs of positions that count lines and characters from
zero. -/

namespace DumpLens

/-- What an editor cannot be told: a position outside its bounds. -/
inductive PositionError
  | line (value : Int)
  | character (value : Int)
  deriving DecidableEq, Repr

namespace PositionError

/-- The largest line and the largest character of an editor. -/
def bound : Int := 2147483647

/-- An error about a coordinate in words, unless the value has too many digits for them. -/
def describe (coordinate : Text) (value : Int) : Text :=
  match Numeral.write? value with
  | some numeral =>
    "Position.".toList ++ coordinate ++ " should be in range [0:".toList ++ Text.ofInt bound ++
      "], but was ".toList ++ numeral ++ ['.']
  | none => Numeral.tooLargeMessage

/-- An error in words. -/
def message : PositionError → Text
  | line value => describe "line".toList value
  | character value => describe "character".toList value

end PositionError

/-- A position of an editor. Both numbers are within its bounds. -/
structure EditorPosition where
  line : Int
  character : Int
  line_bounds : 0 ≤ line ∧ line ≤ PositionError.bound
  character_bounds : 0 ≤ character ∧ character ≤ PositionError.bound
  deriving DecidableEq

/-- A position if it is within bounds. The line is checked first. -/
def EditorPosition.make (line character : Int) : Except PositionError EditorPosition :=
  if lineBounds : 0 ≤ line ∧ line ≤ PositionError.bound then
    if characterBounds : 0 ≤ character ∧ character ≤ PositionError.bound then
      .ok ⟨line, character, lineBounds, characterBounds⟩
    else .error (.character character)
  else .error (.line line)

/-- A range of an editor: from a position up to another one. -/
structure EditorRange where
  start : EditorPosition
  stop : EditorPosition
  deriving DecidableEq

namespace EditorRange

/-- A range if both of its positions are within bounds. The start is checked
first. -/
def make (startLine startCharacter stopLine stopCharacter : Int) :
    Except PositionError EditorRange := do
  let start ← EditorPosition.make startLine startCharacter
  let stop ← EditorPosition.make stopLine stopCharacter
  pure ⟨start, stop⟩

/-- The range of a span. Spans count from one and include both ends; a column zero
counts as the first column. -/
def ofSpan (span : SourceSpan) : Except PositionError EditorRange :=
  make (span.startLine - 1) (max (span.startCol - 1) 0) (span.endLine - 1) span.endCol

def ofLine (line : Nat) (text : Text) : Except PositionError EditorRange :=
  make line 0 line text.length

end EditorRange

end DumpLens
