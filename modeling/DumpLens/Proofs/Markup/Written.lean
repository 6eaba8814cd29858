import DumpLens.Proofs.Lookup
import DumpLens.Proofs.Markup.Fragment
import DumpLens.Proofs.Token.Lossless

/-! Writing of tokens, seen line by line. Wherever the tokens of a text begin and end, every
line of the text becomes one line of markup that renders it. -/

namespace DumpLens.Markup

variable {current : Option Text} {line markup piece : Text}

/-! ## Lines under way -/

/-- What stands on a line so far, and the markup for it. The current element is not
closed. -/
inductive Pending : Option Text → Text → Text → Prop
  | empty : Pending none [] []
  | run {line markup text : Text} (kind : TokenKind) : Renders line markup → text ≠ [] →
      Pending (some (openTag kind.styleClass)) (line ++ text)
        (markup ++ openTag kind.styleClass ++ escape text)

def closeCurrent (current : Option Text) : Text :=
  current.elim [] close

theorem Pending.closed (pending : Pending current line markup) :
    Renders line (markup ++ closeCurrent current) := by
  cases pending with
  | empty => exact .empty
  | run kind before some =>
      have closed := before.run kind some
      simpa [element, closeCurrent] using closed

/-- A piece of a token extends the line by its text. -/
theorem Pending.extend (pending : Pending current line markup) (kind : TokenKind)
    (piece : Text) :
    Pending (writePiece current (openTag kind.styleClass) (escape piece)).2 (line ++ piece)
      (markup ++ (writePiece current (openTag kind.styleClass) (escape piece)).1) := by
  by_cases nothing : piece = []
  · subst nothing
    simpa [writePiece, escape] using pending
  · have someText : (escape piece).isEmpty = false := by
      simpa using nothing
    have closed := pending.closed
    cases pending with
    | empty => simpa [writePiece, someText] using Pending.run kind .empty nothing
    | @run line markup text currentKind before some =>
        by_cases same : openTag currentKind.styleClass = openTag kind.styleClass
        · have someRun := List.append_ne_nil_of_left_ne_nil some piece
          have longer := Pending.run currentKind before someRun
          simpa [writePiece, someText, same] using longer
        · have next := Pending.run kind closed nothing
          simpa [writePiece, someText, same, closeCurrent] using next

/-- A line ends behind a piece as it would if the current element were closed there. -/
theorem writeEnding_eq (current : Option Text) (tag piece : Text) :
    writeEnding current tag piece =
      (writePiece current tag piece).1 ++ closeCurrent (writePiece current tag piece).2 ++
        ['\n'] := by
  unfold writeEnding writePiece
  cases current with
  | none => by_cases nothing : piece = [] <;> simp [nothing, closeCurrent]
  | some currentTag =>
      by_cases nothing : piece = [] <;> by_cases same : currentTag = tag <;>
        simp [nothing, same, closeCurrent]

/-! ## Whole texts -/

/-- Lines of markup, each with its ending. An empty last line is left out. -/
def endLines : List Text → Text
  | [] => []
  | [last] => if last.isEmpty then [] else last ++ ['\n']
  | line :: next :: rest => line ++ '\n' :: endLines (next :: rest)

theorem endLines_cons (line : Text) {rest : List Text} (more : rest ≠ []) :
    endLines (line :: rest) = line ++ '\n' :: endLines rest := by
  cases rest with
  | nil => exact absurd rfl more
  | cons next rest => rfl

theorem endLines_eq {parts : List Text} (someLine : parts ≠ []) :
    endLines parts =
      Text.unlines parts ++ if parts.getLast? = some [] then [] else ['\n'] := by
  induction parts with
  | nil => exact absurd rfl someLine
  | cons line rest induction =>
      cases rest with
      | nil => by_cases nothing : line = [] <;> simp [endLines, Text.unlines, nothing]
      | cons next rest =>
          have more := List.cons_ne_nil next rest
          rw [endLines_cons line more, Text.unlines_cons line more, induction more,
            List.getLast?_cons_cons, List.append_assoc, List.cons_append]

/-- What is written behind a line under way completes the markup for the line and the
rest of the text. -/
def Completes (line markup rest written : Text) : Prop :=
  ∃ markups, List.Forall₂ Renders (line ++ rest).lines markups ∧
    markup ++ written = endLines markups

/-- Every text has a line. -/
theorem ne_nil_of_renders {text : Text} {markups : List Text}
    (renders : List.Forall₂ Renders text.lines markups) : markups ≠ [] := by
  rintro rfl
  exact Text.lines_ne_nil _ (List.forall₂_nil_right_iff.mp renders)

/-- At the end of the text the last line is ended, if something stands on it. -/
theorem Pending.completes_nil (pending : Pending current line markup) (whole : '\n' ∉ line) :
    Completes line markup [] (writeTokens current []) := by
  refine ⟨[markup ++ closeCurrent current], ?_, ?_⟩
  · rw [List.append_nil, Text.lines_of_not_mem whole]
    exact .cons pending.closed .nil
  · cases pending with
    | empty => rfl
    | run kind before some => simp [endLines, writeTokens, closeCurrent, some]

/-- A token writes its pieces, if the tokens behind it write the rest. -/
theorem Pending.completes_writePieces (kind : TokenKind) {after : Option Text → Text} {rest : Text}
    (completes : ∀ current line markup, Pending current line markup → '\n' ∉ line →
      Completes line markup rest (after current))
    {pieces : List Text} (somePiece : pieces ≠ []) (wholePieces : ∀ piece ∈ pieces, '\n' ∉ piece)
    (pending : Pending current line markup) (whole : '\n' ∉ line) :
    Completes line markup (Text.unlines pieces ++ rest)
      ((writePieces current (openTag kind.styleClass) (pieces.map escape)).1 ++
        after (writePieces current (openTag kind.styleClass) (pieces.map escape)).2) := by
  induction pieces generalizing current line markup with
  | nil => exact absurd rfl somePiece
  | cons piece pieces induction =>
      have wholeLine : '\n' ∉ line ++ piece := by
        rw [List.mem_append, not_or]
        exact ⟨whole, wholePieces piece List.mem_cons_self⟩
      have next := pending.extend kind piece
      cases pieces with
      | nil =>
          rcases completes _ _ _ next wholeLine with ⟨markups, renders, equal⟩
          refine ⟨markups, ?_, ?_⟩
          · simpa [Text.unlines] using renders
          · simpa [writePieces] using equal
      | cons second pieces =>
          have more := List.cons_ne_nil second pieces
          rcases induction more
              (fun piece member => wholePieces piece (List.mem_cons_of_mem _ member))
              .empty List.not_mem_nil with ⟨markups, renders, equal⟩
          have someLine := ne_nil_of_renders renders
          refine ⟨(markup ++ (writePiece current (openTag kind.styleClass) (escape piece)).1 ++
            closeCurrent (writePiece current (openTag kind.styleClass) (escape piece)).2) ::
            markups, ?_, ?_⟩
          · rw [Text.unlines_cons piece more, List.append_assoc, ← List.append_assoc line,
              List.cons_append, Text.lines_append_newline wholeLine]
            exact .cons next.closed renders
          · rw [endLines_cons _ someLine, ← equal, List.map_cons, List.map_cons, writePieces,
              writeEnding_eq]
            simp

/-- Tokens write the rest of the text, whatever they begin with. -/
theorem Pending.completes (pending : Pending current line markup) (whole : '\n' ∉ line)
    (tokens : List Token) :
    Completes line markup (tokens.flatMap Token.text) (writeTokens current tokens) := by
  induction tokens generalizing current line markup with
  | nil => exact pending.completes_nil whole
  | cons token tokens induction =>
      have written := pending.completes_writePieces token.kind
        (fun _ _ _ next wholeNext => induction next wholeNext) (Text.lines_ne_nil token.text)
        (fun _ member => Text.not_mem_of_mem_lines member) whole
      rw [Text.unlines_lines] at written
      exact written

/-- Fragments end in an empty one just where the lines do. -/
theorem getLast?_renders {lines markups : List Text}
    (renders : List.Forall₂ Renders lines markups) :
    markups.getLast? = some [] ↔ lines.getLast? = some [] := by
  induction renders with
  | nil => rfl
  | cons first rest induction =>
      cases rest with
      | nil => simp [first.eq_nil_iff]
      | cons second rest => simpa using induction

/-- The lines of a text that is highlighted become lines of markup, but for a byte order
mark at its start. -/
theorem highlight_eq {text : Text} (plain : '\r' ∉ text) (language : Language) :
    ∃ markups, List.Forall₂ Renders (dropMark text).lines markups ∧
      highlight text language = Text.unlines markups := by
  have written := Pending.empty.completes List.not_mem_nil (language.tokens text)
  rw [text_tokens, prepareText_of_not_mem plain] at written
  rcases written with ⟨markups, renders, written⟩
  have someLine := ne_nil_of_renders renders
  have lastEmpty : markups.getLast? = some [] ↔
      dropMark text = [] ∨ text.getLast? = some '\n' := by
    rw [getLast?_renders renders, List.nil_append, Text.getLast?_lines_eq_nil_iff,
      getLast?_dropMark_eq_newline_iff]
  refine ⟨markups, renders, ?_⟩
  rw [List.nil_append, endLines_eq someLine] at written
  by_cases last : markups.getLast? = some []
  · rw [if_pos last, List.append_nil] at written
    rcases lastEmpty.mp last with nothing | ends
    · have noMarkup : Text.unlines markups = [] := by
        rw [nothing, List.nil_append, Text.lines_of_not_mem List.not_mem_nil] at renders
        rcases List.forall₂_cons_left_iff.mp renders with ⟨only, others, shown, rest, rfl⟩
        cases List.forall₂_nil_left_iff.mp rest
        rw [Text.unlines, List.intercalate_singleton]
        exact shown.eq_nil_iff.mpr rfl
      simp [highlight, written, noMarkup]
    · simp [highlight, written, ends]
  · rw [if_neg last] at written
    have noEnding : text.getLast? ≠ some '\n' := by
      intro ends
      exact last (lastEmpty.mpr (.inr ends))
    simp [highlight, written, noEnding]

/-! ## Splitting -/

/-- Fragments stand on their own already. -/
theorem splitLinesFrom_eq {lines markups : List Text}
    (renders : List.Forall₂ Renders lines markups) : splitLinesFrom [] markups = markups := by
  induction renders with
  | nil => rfl
  | cons first _ induction => simp [splitLinesFrom, first.splitLine_eq, induction]

/-- Each line of highlighted text is markup that renders a line of the text. -/
theorem lines_highlight {text : Text} (plain : '\r' ∉ text) (language : Language) :
    List.Forall₂ Renders (dropMark text).lines (highlight text language).lines := by
  rcases highlight_eq plain language with ⟨markups, renders, equal⟩
  have someLine := ne_nil_of_renders renders
  have whole : ∀ markup ∈ markups, '\n' ∉ markup := by
    intro markup member
    rcases exists_partner renders member with ⟨line, isLine, shown⟩
    exact shown.not_mem_newline (Text.not_mem_of_mem_lines isLine)
  rw [equal, Text.lines_unlines someLine whole]
  exact renders

/-- The markup of a text splits into its own lines, one fragment for each line of the
text. -/
theorem splitLines_highlight {text : Text} (plain : '\r' ∉ text) (language : Language) :
    List.Forall₂ Renders (dropMark text).lines (splitLines (highlight text language)) := by
  have renders := lines_highlight plain language
  rw [splitLines, splitLinesFrom_eq renders]
  exact renders

end DumpLens.Markup
