import DumpLens.Proofs.Block.Resolved
import DumpLens.Proofs.Markup.Written
import DumpLens.Proofs.Span.Readable
import DumpLens.Proofs.Text.Indentation
import DumpLens.Render.Dump

/-! How rendered lines are made. The spans come from the lines of the shown text and the
fragments come from its tokens, and both are paired line by line. -/

namespace DumpLens

variable {text : Text} {palette : Palette} {direct : List (Option SourceSpan)}

/-! ## Colours -/

/-- A palette that has a colour has one for every span. -/
theorem Palette.color?_isSome (someColor : palette ≠ []) (span : SourceSpan) :
    ∃ color, palette.color? span = some color := by
  have positive : (0 : Int) < palette.length :=
    Int.natCast_pos.mpr (List.length_pos_iff.mpr someColor)
  have below := Int.fmod_lt_of_pos span.hash positive
  have bound : (span.hash.fmod palette.length).toNat < palette.length := by
    omega
  exact ⟨palette[(span.hash.fmod palette.length).toNat], List.getElem?_eq_getElem bound⟩

/-! ## Single lines -/

/-- A line that is made for a text with a span, from a fragment that renders the text. -/
structure MadeFrom (palette : Palette) (text : Text) (span : Option SourceSpan)
    (line : RenderedLine) : Prop where
  standsFor : line.span = span
  plain : span = none → line.color = none
  colored : ∀ source, span = some source →
    ∃ color, palette.color? source = some color ∧ line.color = some color
  written : ∃ fragment, Markup.Renders text fragment ∧
    line.markup = if fragment.isEmpty then ['\n'] else fragment

/-- With a palette every fragment makes a line. -/
theorem make_madeFrom {markup : Text} (someColor : palette ≠ [])
    (renders : Markup.Renders text markup) (span : Option SourceSpan) :
    ∃ line, RenderedLine.make palette markup span = .ok line ∧ MadeFrom palette text span line := by
  cases span with
  | none =>
      refine ⟨_, rfl, rfl, fun _ => rfl, ?_, markup, renders, rfl⟩
      intro source impossible
      cases impossible
  | some span =>
      rcases Palette.color?_isSome someColor span with ⟨color, chosen⟩
      refine ⟨⟨if markup.isEmpty then ['\n'] else markup, span, color⟩, ?_, rfl, ?_, ?_, markup,
        renders, rfl⟩
      · simp [RenderedLine.make, chosen]
      · intro impossible
        cases impossible
      · intro source equal
        cases equal
        exact ⟨color, chosen, rfl⟩

/-! ## Whole dumps -/

theorem pairLines_madeFrom (someColor : palette ≠ []) {lines markups : List Text}
    (renders : List.Forall₂ Markup.Renders lines markups) :
    ∀ {spans : List (Option SourceSpan)}, spans.length = lines.length →
      ∃ rendered, pairLines palette spans markups = .ok rendered ∧
        rendered.length = spans.length ∧
        ∀ (index : Nat) shown span, lines[index]? = some shown → spans[index]? = some span →
          ∃ line, rendered[index]? = some line ∧ MadeFrom palette shown span line := by
  induction renders with
  | nil =>
      intro spans sameLength
      cases List.length_eq_zero_iff.mp sameLength
      refine ⟨[], rfl, rfl, ?_⟩
      intro index shown span impossible
      cases impossible
  | @cons text markup lines markups first _ induction =>
      intro spans sameLength
      cases spans with
      | nil => cases sameLength
      | cons span spans =>
          rcases make_madeFrom someColor first span with ⟨line, isMade, madeFrom⟩
          rcases induction (Nat.succ.inj sameLength) with ⟨rendered, paired, count, each⟩
          refine ⟨line :: rendered, ?_, by simp [count], ?_⟩
          · simp only [pairLines, List.headD_cons, List.tail_cons, isMade, paired, bind,
              Except.bind]
            rfl
          · intro index shown own here isOwn
            cases index with
            | zero =>
                cases here
                cases isOwn
                exact ⟨line, rfl, madeFrom⟩
            | succ index => exact each index shown own here isOwn

/-- The text that is shown has newlines as its only line endings. -/
theorem not_mem_displayText (text : Text) : '\r' ∉ displayText text := by
  intro member
  exact Text.not_mem_normalizeEndings (Indent.mem_of_mem_scan member (by decide))

/-- There is one number for every line. -/
theorem length_lines_gutter {count : Nat} (someLine : count ≠ 0) :
    (gutter count).lines.length = count := by
  have someNumber : (List.range count).map (fun index =>
      (Text.ofNat (index + 1)).leftpad (Text.ofNat count).length ' ') ≠ [] := by
    simpa using someLine
  have whole : ∀ number ∈ (List.range count).map (fun index =>
      (Text.ofNat (index + 1)).leftpad (Text.ofNat count).length ' '), '\n' ∉ number := by
    intro number member newline
    rcases List.mem_map.mp member with ⟨index, _, rfl⟩
    rcases List.mem_append.mp newline with space | digit
    · exact absurd (List.eq_of_mem_replicate space) (by decide)
    · exact absurd (Nat.isDigit_of_mem_toDigits (by decide) (by decide) digit) (by decide)
  rw [gutter, Text.lines_unlines someNumber whole, List.length_map, List.length_range]

/-- What is shown of a result: its dump, or a note that there is none. -/
def CompileResult.shownOutput (result : CompileResult) : Text :=
  if result.output.isEmpty then noOutput else result.output

/-- What is shown of the compiler's messages: a note if there are none. -/
def CompileResult.shownMessages (result : CompileResult) : Text :=
  if result.messages.isEmpty then noMessages else result.messages

theorem renderDump_eq {result : CompileResult} {language : Language}
    {rendered : List RenderedLine}
    (equal : renderText result.shownOutput language palette = .ok rendered) :
    renderDump result language palette =
      .ok ⟨rendered, gutter rendered.length, result.shownMessages⟩ := by
  unfold CompileResult.shownOutput at equal
  simp only [renderDump, equal, bind, Except.bind]
  rfl

/-- What comes of rendering a text: its spans, and a line for every line of the shown text
but for a byte order mark at its start. -/
structure RendersAs (text : Text) (language : Language) (palette : Palette)
    (spans : LineSpans) (rendered : List RenderedLine) : Prop where
  computed : computeLineSpans (displayText text).lines = .ok spans
  rendering : renderText text language palette = .ok rendered
  spanCount : spans.length = (displayText text).lines.length
  lineCount : rendered.length = (displayText text).lines.length
  made : ∀ (index : Nat) shown, (dropMark (displayText text)).lines[index]? = some shown →
    ∃ span line, spans[index]? = some span ∧ rendered[index]? = some line ∧
      MadeFrom palette shown span line
  readable : ∀ (index : Nat) span, spans[index]? = some (some span) → span.Readable

/-- Where all annotations of a dump can be read, it is rendered. -/
theorem exists_rendersAs (readable : directSpans (displayText text).lines = .ok direct)
    (someColor : palette ≠ []) (language : Language) :
    ∃ spans rendered, RendersAs text language palette spans rendered := by
  have renders := Markup.splitLines_highlight (not_mem_displayText text) language
  have count := length_lines_dropMark (displayText text)
  rcases computeLineSpans_eq readable with ⟨blocks, _, computed⟩
  have spanCount :
      ((List.range (displayText text).lines.length).map (spanAt blocks direct)).length =
        (displayText text).lines.length := by
    rw [List.length_map, List.length_range]
  rcases pairLines_madeFrom someColor renders (spanCount.trans count.symm) with
    ⟨rendered, paired, renderedCount, each⟩
  have rendering : renderText text language palette = .ok rendered := by
    simp only [renderText, computed]
    exact paired
  refine ⟨_, rendered, computed, rendering, spanCount, renderedCount.trans spanCount, ?_, ?_⟩
  · intro index shown here
    have bound := (List.getElem?_eq_some_iff.mp here).1
    rw [count, ← spanCount] at bound
    have isOwn := List.getElem?_eq_getElem bound
    rcases each index shown _ here isOwn with ⟨line, atIndex, made⟩
    exact ⟨_, line, isOwn, atIndex, made⟩
  · intro index span isOwn
    exact readable_computeLineSpans computed (List.mem_of_getElem? isOwn)

theorem RendersAs.madeFrom_of_mem {language : Language} {spans : LineSpans}
    {rendered : List RenderedLine} (rendersAs : RendersAs text language palette spans rendered)
    {line : RenderedLine} (member : line ∈ rendered) :
    ∃ shown span, MadeFrom palette shown span line := by
  rcases List.mem_iff_getElem?.mp member with ⟨index, atIndex⟩
  have bound := (List.getElem?_eq_some_iff.mp atIndex).1
  rw [rendersAs.lineCount, ← length_lines_dropMark] at bound
  rcases rendersAs.made index _ (List.getElem?_eq_getElem bound) with ⟨span, _, _, equal, made⟩
  rw [atIndex] at equal
  cases equal
  exact ⟨_, span, made⟩

theorem RendersAs.lineCount_ne_zero {language : Language} {spans : LineSpans}
    {rendered : List RenderedLine} (rendersAs : RendersAs text language palette spans rendered) :
    rendered.length ≠ 0 := by
  intro nothing
  rw [rendersAs.lineCount] at nothing
  exact Text.lines_ne_nil _ (List.length_eq_zero_iff.mp nothing)

end DumpLens
