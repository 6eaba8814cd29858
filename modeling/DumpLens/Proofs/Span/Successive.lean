import DumpLens.Proofs.Span.Pattern
import DumpLens.Proofs.Text.Matches

/-! Successive annotations of a text, as matches of the pattern of annotations. None starts
inside of a run of name characters, or of others, unless one starts at the front of the run. -/

namespace DumpLens

namespace SpanNote

/-! ## Reading annotations again -/

theorem find?_of_at? {input rest : Text} {note : SpanNote}
    (read : at? input = some (note, rest)) : find? input = some note := by
  cases input with
  | nil => cases read
  | cons character input => rw [find?_cons, read]

/-- What is read as the end of an annotation ends it, without the rest of the text as well. -/
theorem stopAt?_of_stopsWith {stop : Option Position} {behind : Text}
    (stopsWith : StopsWith stop behind) :
    stopAt? ((stop.map fun stop => ':' :: ' ' :: stop.text).getD []) = (stop, []) := by
  cases stop with
  | none => rfl
  | some stop =>
      rcases (stopsWith stop).mp rfl with ⟨rest, rfl, leads⟩
      have alone : stop.Leads [] :=
        ⟨leads.someLine, leads.lineDigits, leads.column.nonempty, leads.column.within, by simp⟩
      have read := Position.at?_eq_some_iff.mpr ⟨(List.append_nil _).symm, alone⟩
      simp [stopAt?, read]

/-- The text of an annotation is read as that annotation. -/
theorem at?_text {input rest : Text} {note : SpanNote} (read : at? input = some (note, rest)) :
    at? note.text = some (note, []) := by
  rcases at?_eq_some read with ⟨back, behind, _, isRun, begins, stopsWith⟩
  rcases note with ⟨file, start, stop⟩
  let ending := (stop.map fun stop => ':' :: ' ' :: stop.text).getD []
  have isFile : IsRun isNameChar file (':' :: (start.text ++ ending)) :=
    isRun_cons isRun.nonempty isRun.within (by decide)
  have leads : start.Leads ending := by
    refine ⟨begins.leads.someLine, begins.leads.lineDigits, begins.leads.column.nonempty,
      begins.leads.column.within, ?_⟩
    intro character first
    cases stop with
    | none => cases first
    | some stop =>
        cases first
        decide
  have readAlone := at?_of_beginsNote isFile ⟨begins.file, rfl, leads⟩
  have ends : stopAt? ending = (stop, []) := stopAt?_of_stopsWith stopsWith
  rw [ends] at readAlone
  have shape : text ⟨file, start, stop⟩ = file ++ ':' :: (start.text ++ ending) := by
    cases stop <;> simp [text, ending]
  rw [shape, readAlone]

/-- The text of the first annotation of a line says the same as the line. -/
theorem find?_text {line : Text} {note : SpanNote} (found : find? line = some note) :
    find? note.text = some note := by
  rcases find?_eq_some found with ⟨_, _, _, _, read, _⟩
  exact find?_of_at? (at?_text read)

/-! ## Places where no annotation starts -/

theorem at?_of_separator {character : Char} (between : isNameChar character = false)
    (rest : Text) : at? (character :: rest) = none := by
  have noName : (character :: rest).takeWhile isNameChar = [] :=
    List.takeWhile_cons_of_neg (by simp [between])
  simp only [at?, noName]
  rfl

end SpanNote

namespace Pattern

theorem at?_note_eq_none_iff {input : Text} :
    note.at? input = none ↔ SpanNote.at? input = none := by
  rw [at?_note, Option.map_eq_none_iff]

theorem startsNowhere_of_names {piece rest : Text}
    (within : ∀ character ∈ piece, SpanNote.isNameChar character = true)
    (nothing : SpanNote.at? (piece ++ rest) = none) : note.StartsNowhere piece rest := by
  induction piece with
  | nil => trivial
  | cons character piece induction =>
      rcases List.forall_mem_cons.mp within with ⟨isName, within⟩
      exact ⟨at?_note_eq_none_iff.mpr nothing,
        induction within (SpanNote.at?_eq_none_of_cons isName nothing)⟩

theorem startsNowhere_of_separators {piece : Text} (rest : Text)
    (between : ∀ character ∈ piece, SpanNote.isNameChar character = false) :
    note.StartsNowhere piece rest := by
  induction piece with
  | nil => trivial
  | cons character piece induction =>
      rcases List.forall_mem_cons.mp between with ⟨isBetween, between⟩
      exact ⟨at?_note_eq_none_iff.mpr (SpanNote.at?_of_separator isBetween _), induction between⟩

/-! ## Matches of the pattern of annotations -/

theorem avoids_note : note.Avoids '\n' := by
  simp only [note, fileName, extension, colon, position, numeral, ending, Avoids]
  decide +kernel

/-- A match has the extension of source files and a colon behind it. -/
theorem extension_infix_taken {input : Text} {found : PatternMatch}
    (isWay : found ∈ note.ways input) : SpanNote.extension ++ [':'] <:+: found.taken := by
  rcases mem_ways_both.mp isWay with ⟨file, isFile, behind, isBehind, rfl⟩
  rcases mem_ways_both.mp isBehind with ⟨mark, isMark, after, _, rfl⟩
  rcases mem_ways_fileName.mp isFile with ⟨stem, _, _, _, _, rfl⟩
  rcases mem_ways_one.mp isMark with ⟨character, _, _, isColon, rfl⟩
  cases eq_of_beq isColon
  exact ⟨stem, after.taken, by simp [PatternMatch.andThen]⟩

theorem consumes_note : note.Consumes := by
  intro input found isWay nothing
  have isInfix := extension_infix_taken isWay
  rw [nothing, List.infix_nil] at isInfix
  cases isInfix

/-- The text of the leftmost match in a line is that of the first annotation. -/
theorem search_note_text (line : Text) :
    (note.search line).map PatternMatch.taken = (SpanNote.find? line).map SpanNote.text :=
  map_search_note (fun _ _ => rfl) line

end Pattern

/-! ## What a line says -/

/-- The text of the leftmost match is all of a line that is read. -/
theorem parseSpan_taken {line : Text} {found : PatternMatch}
    (searched : Pattern.note.search line = some found) :
    parseSpan line = parseSpan found.taken ∧ spanFile line = spanFile found.taken ∧
      (spanFile line).isSome := by
  have texts := Pattern.search_note_text line
  rw [searched] at texts
  rcases Option.map_eq_some_iff.mp texts.symm with ⟨first, isFirst, isText⟩
  have again := SpanNote.find?_text isFirst
  rw [isText] at again
  simp [parseSpan, spanFile, isFirst, again]

theorem parseSpan_of_search_none {line : Text} (nothing : Pattern.note.search line = none) :
    parseSpan line = .ok none ∧ spanFile line = none := by
  have texts := Pattern.search_note_text line
  rw [nothing] at texts
  have noNote := Option.map_eq_none_iff.mp texts.symm
  simp [parseSpan, spanFile, noNote]

end DumpLens
