import DumpLens.Text.Basic

/-! Compaction of the indentation of a text: four leading spaces become two. -/

namespace DumpLens.Indent

/-- How many spaces an indentation of the given width keeps: two for every four,
and the rest as it is. -/
def compactWidth (width : Nat) : Nat :=
  2 * (width / 4) + width % 4

/-- Reindents a text from a place inside it. With `some width` the place is in the
indentation of a line, after `width` spaces that are not written yet; with
`none` it is behind the indentation. -/
def scan : Option Nat → Text → Text
  | some width, [] => List.replicate (compactWidth width) ' '
  | some width, ' ' :: rest => scan (some (width + 1)) rest
  | some width, '\n' :: rest =>
    List.replicate (compactWidth width) ' ' ++ '\n' :: scan (some 0) rest
  | some width, character :: rest =>
    List.replicate (compactWidth width) ' ' ++ character :: scan none rest
  | none, [] => []
  | none, '\n' :: rest => '\n' :: scan (some 0) rest
  | none, character :: rest => character :: scan none rest

/-- Compacts the run of spaces at the start of every line. Tabs, and spaces
behind other characters, stay as they are. -/
def compact (text : Text) : Text :=
  scan (some 0) text

example : compact "    a    b\n       c".toList = "  a    b\n     c".toList := by decide +kernel

end DumpLens.Indent
