import DumpLens.Span.Basic
import DumpLens.Text.Blank
import DumpLens.Text.Numeral

/-! Span annotations inside dump lines, such as `main.rs:3:5: 5:10` or
`main.rs:3:5`: a source file, the position where the span starts and, if it is
given, the position where it ends. -/

namespace DumpLens

/-- The numerals of a source position `L:C`, as written. -/
structure Position where
  line : Text
  column : Text
  deriving DecidableEq, Repr

/-- An annotation as written. -/
structure SpanNote where
  file : Text
  start : Position
  stop : Option Position
  deriving DecidableEq, Repr

/-! ## Reading positions -/

namespace Position

/-- A position as a dump writes it. -/
def text (position : Position) : Text :=
  position.line ++ ':' :: position.column

/-- Reads a position at the front of a text: two runs of digits, each as long as
possible, with a colon between them. -/
def at? (input : Text) : Option (Position × Text) :=
  match input.takeWhile isDigit, input.dropWhile isDigit with
  | first :: line, ':' :: rest =>
    match rest.takeWhile isDigit with
    | second :: column => some (⟨first :: line, second :: column⟩, rest.dropWhile isDigit)
    | [] => none
  | _, _ => none

end Position

/-! ## Reading annotations -/

namespace SpanNote

/-- Characters of file names: no blank and no colon. -/
def isNameChar (character : Char) : Bool :=
  !isBlank character && character != ':'

/-- The extension that a source file has. -/
def extension : Text := ".rs".toList

/-- A run of name characters names a source file when the extension stands at
its end and something stands before it. -/
def isFileName (run : Text) : Bool :=
  extension.length < run.length && extension.isSuffixOf run

/-- The end position, when one follows the start after a colon and one space.
Anything else is left in the rest. -/
def stopAt? (input : Text) : Option Position × Text :=
  match input with
  | ':' :: ' ' :: rest =>
    match Position.at? rest with
    | some (stop, rest) => (some stop, rest)
    | none => (none, input)
  | _ => (none, input)

/-- Reads an annotation at the front of a text, and gives what follows it. -/
def at? (input : Text) : Option (SpanNote × Text) :=
  let file := input.takeWhile isNameChar
  if isFileName file then
    match input.dropWhile isNameChar with
    | ':' :: rest =>
      match Position.at? rest with
      | some (start, rest) =>
        let (stop, rest) := stopAt? rest
        some (⟨file, start, stop⟩, rest)
      | none => none
    | _ => none
  else none

/-- An annotation as a dump writes it. -/
def text (note : SpanNote) : Text :=
  note.file ++ ':' :: note.start.text ++
    match note.stop with
    | some stop => ':' :: ' ' :: stop.text
    | none => []

/-- The annotation that starts leftmost in a text. Where none starts at the front of a run
of name characters, none starts inside of it. -/
def find? : Text → Option SpanNote
  | [] => none
  | character :: rest =>
    match at? (character :: rest) with
    | some (note, _) => some note
    | none => find? (if isNameChar character then rest.dropWhile isNameChar else rest)
termination_by input => input.length
decreasing_by
  have shorter := (List.dropWhile_suffix (l := rest) isNameChar).length_le
  rw [List.length_cons]
  split
  · exact Nat.lt_succ_of_le shorter
  · exact Nat.lt_succ_self _

/-- A run that names no file has no end that names one. -/
theorem isFileName_cons {character : Char} {run : Text} (isName : isFileName run) :
    isFileName (character :: run) := by
  simp only [isFileName, Bool.and_eq_true, decide_eq_true_eq, List.isSuffixOf_iff_suffix] at *
  exact ⟨Nat.lt_succ_of_lt isName.1, isName.2.trans (List.suffix_cons ..)⟩

/-- Nothing starts inside of a run unless something starts at its front. -/
theorem at?_eq_none_of_cons {character : Char} {rest : Text} (isName : isNameChar character)
    (nothing : at? (character :: rest) = none) : at? rest = none := by
  have run : (character :: rest).takeWhile isNameChar = character :: rest.takeWhile isNameChar :=
    List.takeWhile_cons_of_pos isName
  have behind : (character :: rest).dropWhile isNameChar = rest.dropWhile isNameChar :=
    List.dropWhile_cons_of_pos isName
  simp only [at?, run, behind] at nothing ⊢
  by_cases isFile : isFileName (rest.takeWhile isNameChar)
  · rw [if_pos (isFileName_cons isFile)] at nothing
    rw [if_pos isFile]
    split at nothing <;> simp_all
    split at nothing <;> simp_all
  · rw [if_neg isFile]

theorem find?_dropWhile {text : Text} (nothing : at? text = none) :
    find? (text.dropWhile isNameChar) = find? text := by
  induction text with
  | nil => rfl
  | cons character rest induction =>
    by_cases isName : isNameChar character
    · rw [List.dropWhile_cons_of_pos isName, find?, nothing, if_pos isName]
    · rw [List.dropWhile_cons_of_neg isName]

/-- An annotation starts at the front of a text or behind it. -/
theorem find?_cons (character : Char) (rest : Text) :
    find? (character :: rest) =
      match at? (character :: rest) with
      | some (note, _) => some note
      | none => find? rest := by
  rw [find?]
  split
  · rfl
  · rename_i nothing
    by_cases isName : isNameChar character
    · rw [if_pos isName, find?_dropWhile (at?_eq_none_of_cons isName nothing)]
    · rw [if_neg isName]

example : find? "// at main.rs:3:5: 5:10 (#0)".toList =
    some ⟨"main.rs".toList, ⟨['3'], ['5']⟩, some ⟨['5'], "10".toList⟩⟩ := by decide +kernel

example : find? ".rs:1:2 a:b.rs:1:2:3".toList =
    some ⟨"b.rs".toList, ⟨['1'], ['2']⟩, none⟩ := by decide +kernel

/-! ## Spans of annotations -/

/-- The span that an annotation denotes. A start on line zero marks code without
a source and denotes none; the end is then not read. Without an end position the
span ends where it starts. -/
def span (note : SpanNote) : Except Overlong (Option SourceSpan) := do
  let startLine ← Numeral.read note.start.line
  let startCol ← Numeral.read note.start.column
  if startLine = 0 then
    pure none
  else
    match note.stop with
    | none => pure (some ⟨startLine, startCol, startLine, startCol⟩)
    | some stop =>
      let endLine ← Numeral.read stop.line
      let endCol ← Numeral.read stop.column
      pure (some ⟨startLine, startCol, endLine, endCol⟩)

end SpanNote

/-! ## Spans of lines -/

/-- The span that the first annotation of a line denotes. -/
def parseSpan (line : Text) : Except Overlong (Option SourceSpan) :=
  match SpanNote.find? line with
  | some note => note.span
  | none => .ok none

/-- The file that the first annotation of a line names. -/
def spanFile (line : Text) : Option Text :=
  (SpanNote.find? line).map SpanNote.file

/-- The file named on the first line that has a span. -/
def firstSpanFile : List Text → Except Overlong (Option Text)
  | [] => .ok none
  | line :: rest => do
    match ← parseSpan line with
    | some _ => pure (spanFile line)
    | none => firstSpanFile rest

def directSpans (lines : List Text) : Except Overlong (List (Option SourceSpan)) :=
  lines.mapM parseSpan

end DumpLens
