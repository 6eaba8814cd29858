import DumpLens.CommandLine.Listing
import DumpLens.CommandLine.Run
import DumpLens.Proofs.Span.Readable
import DumpLens.Proofs.Text.Lines
import DumpLens.Proofs.Text.Runs

/-! Listings of spans, and how they are read back: the span of a row is in front of its first
blank, and the line is behind the bar. -/

namespace DumpLens

/-- A text without escape characters has no control sequences. -/
theorem Terminal.plain_of_not_mem {text : Text} (noEscape : '\x1b' ∉ text) :
    plain text = text := by
  fun_induction plain text with
  | case1 | case2 => exact absurd List.mem_cons_self noEscape
  | case3 character rest _ induction =>
      rw [induction fun member => noEscape (List.mem_cons_of_mem _ member)]
  | case4 => rfl

namespace CommandLine

variable {spans : LineSpans} {span : Option SourceSpan} {width : Nat}

/-! ## Labels -/

def readPosition? (text : Text) : Option (Nat × Nat) :=
  match text.splitOn ':' with
  | [line, column] => some (Nat.ofDigitChars 10 line 0, Nat.ofDigitChars 10 column 0)
  | _ => none

/-- Reads the span that a label shows, if it shows one. -/
def readLabel? (label : Text) : Option SourceSpan :=
  match label.splitOn '-' with
  | [start, stop] =>
    match readPosition? start, readPosition? stop with
    | some (startLine, startCol), some (endLine, endCol) =>
      some ⟨startLine, startCol, endLine, endCol⟩
    | _, _ => none
  | _ => none

theorem readPosition?_ofNat (line column : Nat) :
    readPosition? (Text.ofNat line ++ ':' :: Text.ofNat column) = some (line, column) := by
  have parts : (Text.ofNat line ++ ':' :: Text.ofNat column).splitOn ':' =
      [Text.ofNat line, Text.ofNat column] := by
    rw [List.splitOn_append_cons_self_of_not_mem (Text.not_mem_ofNat (by decide)),
      List.splitOn_eq_singleton (Text.not_mem_ofNat (by decide))]
  have value (number : Nat) : Nat.ofDigitChars 10 (Text.ofNat number) 0 = number :=
    Nat.ofDigitChars_toDigits (by decide) (by decide)
  simp only [readPosition?, parts, value]

/-- The label of a line is read back as its span. -/
theorem readLabel?_spanLabel (readable : ∀ source, span = some source → source.Readable) :
    readLabel? (spanLabel span) = span := by
  cases span with
  | none => decide +kernel
  | some source =>
      have isReadable := readable source rfl
      rcases source with ⟨startLine, startCol, endLine, endCol⟩
      rcases isReadable with ⟨⟨startLine, rfl, _⟩, ⟨startCol, rfl, _⟩, ⟨endLine, rfl, _⟩,
        ⟨endCol, rfl, _⟩⟩
      have noDash (line column : Nat) : '-' ∉ Text.ofNat line ++ ':' :: Text.ofNat column := by
        simp [Text.not_mem_ofNat (show isAsciiDigit '-' = false by decide)]
      have parts : (spanLabel (some ⟨startLine, startCol, endLine, endCol⟩)).splitOn '-' =
          [Text.ofNat startLine ++ ':' :: Text.ofNat startCol,
            Text.ofNat endLine ++ ':' :: Text.ofNat endCol] := by
        have shape : spanLabel (some ⟨startLine, startCol, endLine, endCol⟩) =
            Text.ofNat startLine ++ ':' :: Text.ofNat startCol ++ '-' ::
              (Text.ofNat endLine ++ ':' :: Text.ofNat endCol) := by
          simp [spanLabel, SourceSpan.text, Text.ofInt]
        rw [shape, List.splitOn_append_cons_self_of_not_mem (noDash startLine startCol),
          List.splitOn_eq_singleton (noDash endLine endCol)]
      simp only [readLabel?, parts, readPosition?_ofNat]

theorem mem_spanLabel {character : Char} (member : character ∈ spanLabel span) :
    isAsciiDigit character = true ∨ character = ':' ∨ character = '-' := by
  cases span with
  | none => exact .inr (.inr (List.mem_singleton.mp member))
  | some source =>
      have ofNumber {number : Int} (member : character ∈ Text.ofInt number) :
          isAsciiDigit character = true ∨ character = ':' ∨ character = '-' :=
        (Text.mem_ofInt member).imp_right .inr
      simp only [spanLabel, SourceSpan.text, List.mem_append, List.mem_cons] at member
      grind

theorem spanLabel_ne_nil : spanLabel span ≠ [] := by
  cases span <;> simp [spanLabel, SourceSpan.text]

/-- The labels of all lines have room in the common width. -/
theorem length_spanLabel_le (member : span ∈ spans) :
    (spanLabel span).length ≤ labelWidth spans := by
  have fits (source : SourceSpan) (shown : some source ∈ spans) :
      source.text.length ≤ labelWidth spans := by
    apply List.le_max?_getD_of_mem
    exact List.mem_map.mpr ⟨source, List.mem_filterMap.mpr ⟨some source, shown, rfl⟩, rfl⟩
  cases span with
  | some source => exact fits source member
  | none =>
      by_cases someSpan : ∃ source, some source ∈ spans
      · rcases someSpan with ⟨source, shown⟩
        have nonempty : 0 < (spanLabel (some source)).length :=
          List.length_pos_iff.mpr spanLabel_ne_nil
        exact Nat.le_trans nonempty (fits source shown)
      · have noSpan : spans.filterMap id = [] := by
          refine List.filterMap_eq_nil_iff.mpr ?_
          intro own member
          cases own with
          | none => rfl
          | some source => exact absurd ⟨source, member⟩ someSpan
        rw [labelWidth, noSpan]
        exact Nat.le_refl 1

/-! ## Rows -/

/-- Reads the span and the line of a row. -/
def readRow (row : Text) : Option SourceSpan × Text :=
  (readLabel? (row.takeWhile (· != ' ')),
    ((row.dropWhile (· != ' ')).dropWhile (· == ' ')).drop 2)

theorem listedLine_eq (line : Text) :
    listedLine width span line =
      spanLabel span ++ (List.replicate (width - (spanLabel span).length + 1) ' ' ++
        '|' :: ' ' :: line) := by
  simp [listedLine, List.rightpad, List.replicate_succ']

theorem readRow_listedLine (readable : ∀ source, span = some source → source.Readable)
    (line : Text) : readRow (listedLine width span line) = (span, line) := by
  have label : IsRun (· != ' ') (spanLabel span)
      (List.replicate (width - (spanLabel span).length + 1) ' ' ++ '|' :: ' ' :: line) := by
    refine ⟨spanLabel_ne_nil, ?_, ?_⟩
    · intro character member
      rcases mem_spanLabel member with digit | rfl | rfl
      · rw [bne_iff_ne]
        rintro rfl
        cases digit
      · rfl
      · rfl
    · intro character first
      cases first
      rfl
  have padding : IsRun (· == ' ')
      (List.replicate (width - (spanLabel span).length + 1) ' ') ('|' :: ' ' :: line) := by
    refine isRun_cons (by simp) ?_ rfl
    intro character member
    rw [List.eq_of_mem_replicate member]
    rfl
  rw [listedLine_eq, readRow, label.takeWhile_eq, label.dropWhile_eq, padding.dropWhile_eq,
    readLabel?_spanLabel readable]
  rfl

theorem not_mem_listedLine {character : Char} {line : Text} (absent : character ∉ line)
    (noDigit : isAsciiDigit character = false) (noMark : character ∉ [':', '-', ' ', '|']) :
    character ∉ listedLine width span line := by
  intro member
  rw [listedLine_eq, List.mem_append, List.mem_append, List.mem_cons, List.mem_cons] at member
  simp only [List.mem_cons, List.not_mem_nil, or_false, not_or] at noMark
  rcases member with ofLabel | space | bar | space | ofLine
  · rcases mem_spanLabel ofLabel with digit | colon | dash
    · rw [noDigit] at digit
      cases digit
    · exact noMark.1 colon
    · exact noMark.2.1 dash
  · exact noMark.2.2.1 (List.eq_of_mem_replicate space)
  · exact noMark.2.2.2 bar
  · exact noMark.2.2.1 space
  · exact absent ofLine

theorem not_mem_rows {character : Char} {lines : List Text}
    (absent : ∀ line ∈ lines, character ∉ line) (noDigit : isAsciiDigit character = false)
    (noMark : character ∉ [':', '-', ' ', '|']) (width : Nat) (spans : LineSpans) :
    ∀ row ∈ List.zipWith (listedLine width) spans lines, character ∉ row := by
  intro row member
  rw [← List.map_uncurry_zip_eq_zipWith] at member
  rcases List.mem_map.mp member with ⟨⟨span, line⟩, paired, rfl⟩
  exact not_mem_listedLine (absent line (List.of_mem_zip paired).2) noDigit noMark

/-! ## Whole listings -/

/-- Reads a listing. Behind its last newline there is no row. -/
def readListing (out : Text) : List (Option SourceSpan × Text) :=
  out.lines.dropLast.map readRow

theorem lines_printedLines {rows : List Text} (whole : ∀ row ∈ rows, '\n' ∉ row) :
    (printedLines rows).lines = rows ++ [[]] := by
  induction rows with
  | nil => rfl
  | cons row rows induction =>
      have others := induction fun other member => whole other (List.mem_cons_of_mem _ member)
      have parts : printedLines (row :: rows) = row ++ '\n' :: printedLines rows := by
        simp [printedLines]
      rw [parts, Text.lines_append_newline (whole row List.mem_cons_self), others, List.cons_append]

theorem not_mem_printedLines {rows : List Text} {character : Char}
    (notNewline : character ≠ '\n') (absent : ∀ row ∈ rows, character ∉ row) :
    character ∉ printedLines rows := by
  intro member
  rcases List.mem_flatMap.mp member with ⟨row, isRow, member⟩
  rcases List.mem_append.mp member with inRow | newline
  · exact absent row isRow inRow
  · exact notNewline (List.mem_singleton.mp newline)

/-- A text lists lines behind their spans: each span, or a dash, is filled up to one width,
and what is listed can be read back. -/
structure Lists (out : Text) (spans : LineSpans) (lines : List Text) : Prop where
  count : out.lines.length = lines.length + 1
  ends : out.lines.getLast? = some []
  rows : ∃ width, ∀ (index : Nat) span line, spans[index]? = some span →
    lines[index]? = some line →
    ∃ padding, (spanLabel span).length + padding = width ∧
      out.lines[index]? = some (spanLabel span ++ List.replicate padding ' ' ++
        " | ".toList ++ line)
  readBack : readListing out = spans.zip lines

theorem lists_printedLines {lines : List Text} (sameLength : spans.length = lines.length)
    (whole : ∀ line ∈ lines, '\n' ∉ line)
    (readable : ∀ source, some source ∈ spans → source.Readable) :
    Lists (printedLines (List.zipWith (listedLine (labelWidth spans)) spans lines)) spans
      lines := by
  have wholeRows := not_mem_rows whole (by decide) (by decide) (labelWidth spans) spans
  have printed := lines_printedLines wholeRows
  refine ⟨?_, ?_, ⟨labelWidth spans, ?_⟩, ?_⟩
  · rw [printed]
    simp [sameLength]
  · rw [printed]
    simp
  · intro index span line isSpan isLine
    have fits := length_spanLabel_le (List.mem_of_getElem? isSpan)
    refine ⟨labelWidth spans - (spanLabel span).length, Nat.add_sub_cancel' fits, ?_⟩
    have isRow : (List.zipWith (listedLine (labelWidth spans)) spans lines)[index]? =
        some (listedLine (labelWidth spans) span line) := by
      rw [List.getElem?_zipWith, isSpan, isLine]
    rw [printed, List.getElem?_append_left (List.getElem?_eq_some_iff.mp isRow).1, isRow]
    rfl
  · have read : ∀ paired ∈ spans.zip lines,
        readRow (listedLine (labelWidth spans) paired.1 paired.2) = paired := by
      intro paired member
      refine readRow_listedLine ?_ paired.2
      intro source isSpan
      exact readable source (isSpan ▸ (List.of_mem_zip member).1)
    rw [readListing, printed, List.dropLast_concat, ← List.map_uncurry_zip_eq_zipWith,
      List.map_map]
    exact (List.map_congr_left read).trans (List.map_id _)

end CommandLine

end DumpLens
