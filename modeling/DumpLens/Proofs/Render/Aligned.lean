import DumpLens.Proofs.Render.Made
import Mathlib.Data.List.Permutation

/-! Rendered lines against the lines of the text that is shown. The spans come from the
lines themselves and the markup comes from tokens, and both agree line by line. -/

namespace DumpLens

variable {text : Text} {palette : Palette} {direct : List (Option SourceSpan)}

/-- A line that is shown for a text with a span: the text is in its markup, and equal spans
have equal colours. -/
structure ShowsLine (palette : Palette) (text : Text) (span : Option SourceSpan)
    (line : RenderedLine) : Prop where
  standsFor : line.span = span
  plain : span = none → line.color = none
  colored : ∀ source, span = some source →
    ∃ color, palette[(source.hash.fmod palette.length).toNat]? = some color ∧
      line.color = some color
  empty : text = [] → line.markup = ['\n']
  nested : text ≠ [] → Markup.Nested (Markup.tags line.markup)
  shown : text ≠ [] → Markup.decode (Markup.stripTags line.markup) = text

theorem MadeFrom.showsLine {span : Option SourceSpan} {line : RenderedLine}
    (made : MadeFrom palette text span line) : ShowsLine palette text span line := by
  rcases made with ⟨standsFor, plain, colored, fragment, renders, written⟩
  have whole : text ≠ [] → line.markup = fragment := by
    intro some
    have someMarkup := mt renders.eq_nil_iff.mp some
    simp [written, someMarkup]
  refine ⟨standsFor, plain, colored, ?_, ?_, ?_⟩
  · intro nothing
    rw [written, renders.eq_nil_iff.mpr nothing]
    rfl
  · intro some
    rw [whole some]
    exact renders.nested_tags
  · intro some
    rw [whole some, renders.stripTags_eq, Markup.decode_escape]

/-- Where all annotations of a dump can be read, the dump is rendered line by line: each
line of the shown text, but for a byte order mark at its start, has its line, with the span
of that line and markup that shows its text. There is a number for each line. -/
theorem renderText_alignsLines (readable : directSpans (displayText text).lines = .ok direct)
    (someColor : palette ≠ []) (language : Language) :
    ∃ spans rendered, computeLineSpans (displayText text).lines = .ok spans ∧
      renderText text language palette = .ok rendered ∧
      rendered.length = (displayText text).lines.length ∧
      (Markup.splitLines (highlight (displayText text) language)).length =
        (displayText text).lines.length ∧
      (dropMark (displayText text)).lines.length = (displayText text).lines.length ∧
      (∀ (index : Nat) shown, (dropMark (displayText text)).lines[index]? = some shown →
        ∃ span line, spans[index]? = some span ∧ rendered[index]? = some line ∧
          ShowsLine palette shown span line) ∧
      ∀ result : CompileResult, result.shownOutput = text →
        ∃ dump, renderDump result language palette = .ok dump ∧ dump.lines = rendered ∧
          dump.lineNumbers.lines.length = rendered.length := by
  have sameLength := (Markup.splitLines_highlight (not_mem_displayText text) language).length_eq
  have count := length_lines_dropMark (displayText text)
  rcases exists_rendersAs readable someColor language with ⟨spans, rendered, rendersAs⟩
  refine ⟨spans, rendered, rendersAs.computed, rendersAs.rendering, rendersAs.lineCount,
    sameLength.symm.trans count, count, ?_, ?_⟩
  · intro index shown here
    rcases rendersAs.made index shown here with ⟨span, line, isOwn, atIndex, made⟩
    exact ⟨span, line, isOwn, atIndex, made.showsLine⟩
  · intro result isOutput
    subst isOutput
    exact ⟨_, renderDump_eq rendersAs.rendering, rfl,
      length_lines_gutter rendersAs.lineCount_ne_zero⟩

/-- A text with a byte order mark, three kinds of line endings, and a string over several
lines that looks like markup. -/
def markedText : Text :=
  "\ufefflet x; // a.rs:1:2: 3:4\r\n    \"<span>\r\r&amp;\";\n".toList

theorem renderText_alignsLines_markedText :
    ∃ rendered, renderText markedText .dump .standard = .ok rendered ∧ rendered.length = 5 ∧
      ∀ (index : Nat) shown, ["let x; // a.rs:1:2: 3:4", "  \"<span>", "", "&amp;\";", ""][index]? =
          some shown →
        ∃ span line, rendered[index]? = some line ∧
          ShowsLine .standard shown.toList span line := by
  have readable : directSpans (displayText markedText).lines =
      .ok [some ⟨1, 2, 3, 4⟩, none, none, none, none] := by
    cbv
  have lines : (dropMark (displayText markedText)).lines =
      ["let x; // a.rs:1:2: 3:4", "  \"<span>", "", "&amp;\";", ""].map String.toList := by
    cbv
  have someColor : Palette.standard ≠ [] := List.cons_ne_nil _ _
  rcases renderText_alignsLines readable someColor .dump with
    ⟨spans, rendered, _, rendering, count, _, sameCount, each, _⟩
  refine ⟨rendered, rendering, ?_, ?_⟩
  · rw [count, ← sameCount, lines]
    rfl
  · intro index shown here
    have isLine : (dropMark (displayText markedText)).lines[index]? = some shown.toList := by
      rw [lines, List.getElem?_map, here]
      rfl
    rcases each index shown.toList isLine with ⟨span, line, _, atIndex, shows⟩
    exact ⟨span, line, atIndex, shows⟩

end DumpLens
