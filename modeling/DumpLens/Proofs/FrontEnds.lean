import DumpLens.Proofs.Block.Alike
import DumpLens.Proofs.CommandLine.Listed
import DumpLens.Proofs.Document.Analyzed
import DumpLens.Proofs.Render.Made
import DumpLens.Proofs.Span.Refused
import DumpLens.Proofs.Text.Encoded

/-! The spans that the editor, the renderer and the command line show for one dump. Each of
them takes the text in another form, and all find the same spans or fail alike. -/

namespace DumpLens

variable {text : Text}

/-! ## The renderer -/

theorem pairLines_spans {palette : Palette} (someColor : palette ≠ []) (spans : LineSpans)
    (fragments : List Text) :
    ∃ rendered, pairLines palette spans fragments = .ok rendered ∧
      rendered.map RenderedLine.span = spans := by
  have make (fragment : Text) (span : Option SourceSpan) :
      ∃ line, RenderedLine.make palette fragment span = .ok line ∧ line.span = span := by
    cases span with
    | none => exact ⟨_, rfl, rfl⟩
    | some source =>
        rcases Palette.color?_isSome someColor source with ⟨color, chosen⟩
        rw [RenderedLine.make, chosen]
        exact ⟨_, rfl, rfl⟩
  induction spans generalizing fragments with
  | nil => exact ⟨[], rfl, rfl⟩
  | cons span spans induction =>
      rcases make (fragments.headD []) span with ⟨line, isMade, own⟩
      rcases induction fragments.tail with ⟨rendered, paired, others⟩
      refine ⟨line :: rendered, ?_, ?_⟩
      · rw [pairLines, isMade, paired]
        rfl
      · rw [List.map_cons, own, others]

/-! ## The command line -/

namespace CommandLine

theorem Setting.spans_eq {setting : Setting} {file : Text} {place : Place}
    (located : setting.workplace.files.locate setting.workplace.directory (Path.ofText file) =
      .ok place)
    (holds : setting.workplace.files.entry? place = some (.file (Utf8.encode text))) :
    setting.spans file =
      match computeLineSpans (displayText text).lines with
      | .ok spans => .printed (printedLines
          (List.zipWith (listedLine (labelWidth spans)) spans (displayText text).lines))
      | .error cause => .crashed (.render (.spans cause)) := by
  have read : setting.readText file = .ok text.normalizeEndings := by
    simp only [Setting.readText, FileTree.readText, located, holds, Utf8.decode?_encode, bind,
      Except.bind]
    rfl
  rw [Setting.spans, read]
  simp only [spanListing, displayText]
  cases computeLineSpans (Indent.compact text.normalizeEndings).lines <;> rfl

theorem lists_printed {spans : LineSpans}
    (computed : computeLineSpans (displayText text).lines = .ok spans)
    (noEscape : '\x1b' ∉ text) :
    Lists (Outcome.printed (printedLines
      (List.zipWith (listedLine (labelWidth spans)) spans (displayText text).lines))).out
      spans (displayText text).lines := by
  have noLine := not_mem_lines_displayText noEscape (by decide) (by decide)
  have noRow := not_mem_rows noLine (by decide) (by decide) (labelWidth spans) spans
  rw [Outcome.printed, Terminal.plain_of_not_mem (not_mem_printedLines (by decide) noRow)]
  exact lists_printedLines (length_computeLineSpans computed)
    (fun _ => Text.not_mem_of_mem_lines) (fun _ => readable_computeLineSpans computed)

end CommandLine

/-! ## All of them -/

open CommandLine in
/-- The editor, the renderer and the command line show the same spans for a text. -/
structure ShowSame (text : Text) (spans : LineSpans) (document : Document)
    (renderedLines : List RenderedLine) (outcome : Outcome) : Prop where
  resolved : computeLineSpans text.lines = .ok spans
  edited : document.lineSpans = spans
  rendered : renderedLines.map RenderedLine.span = spans
  count : spans.length = text.lines.length
  shownCount : spans.length = (displayText text).lines.length
  printed : outcome = .printed (printedLines
    (List.zipWith (listedLine (labelWidth spans)) spans (displayText text).lines))
  listed : '\x1b' ∉ text → Lists outcome.out spans (displayText text).lines

open CommandLine in
/-- Where carriage returns are only parts of line endings, the editor takes a text with
them and with its indentation, the renderer and the command line take it without, and all
find the same spans, or none does because of the same numeral. -/
theorem frontEnds_showSame {palette : Palette} {setting : Setting} {file : Text} {place : Place}
    (endings : text.ReturnsAtLineEnds) (someColor : palette ≠ [])
    (located : setting.workplace.files.locate setting.workplace.directory (Path.ofText file) =
      .ok place)
    (holds : setting.workplace.files.entry? place = some (.file (Utf8.encode text)))
    (language : Language) :
    (∃ spans document rendered, Document.analyze text = .ok document ∧
      renderText text language palette = .ok rendered ∧
      ShowSame text spans document rendered (setting.spans file)) ∨
    ∃ refusal : Overlong, (∃ line ∈ text.lines, parseSpan line = .error refusal) ∧
      Numeral.limit < refusal.digits ∧
      Document.analyze text = .error (.overlong refusal.digits) ∧
      renderText text language palette = .error (.spans (.overlong refusal.digits)) ∧
      setting.spans file = .crashed (.render (.spans (.overlong refusal.digits))) := by
  have printed := Setting.spans_eq located holds
  have shown := computeLineSpans_displayText endings
  cases computed : computeLineSpans text.lines with
  | ok spans =>
      rw [computed] at shown
      rw [shown] at printed
      simp only at printed
      rcases Document.exists_analyze computed with ⟨document, analyzed, edited⟩
      rcases pairLines_spans someColor spans
        (Markup.splitLines (highlight (displayText text) language)) with
        ⟨rendered, paired, sameSpans⟩
      have rendering : renderText text language palette = .ok rendered := by
        simp only [renderText, shown]
        exact paired
      refine .inl ⟨spans, document, rendered, analyzed, rendering, computed, edited, sameSpans,
        length_computeLineSpans computed, length_computeLineSpans shown, printed, ?_⟩
      intro noEscape
      rw [printed]
      exact lists_printed shown noEscape
  | error cause =>
      rcases exists_of_computeLineSpans_eq_error computed with
        ⟨refusal, ⟨line, isLine, unreadable⟩, rfl⟩
      rw [computed] at shown
      rw [shown] at printed
      refine .inr ⟨refusal, ⟨line, isLine, unreadable⟩, limit_lt_of_parseSpan unreadable, ?_, ?_,
        printed⟩
      · rw [Document.analyze, computed]
        rfl
      · simp only [renderText, shown]
        rfl

/-- A dump with carriage returns and deep indentation, in which an annotation is not that of
its line alone. -/
def returnsDump : Text :=
  "fn f() \x7b\r\n        x // a.rs:1:2: 3:14 é\r\n     y\r\n\x7d\n".toList

/-- A system with a single file, a dump. -/
def dumpSetting (dump : Text) : CommandLine.Setting :=
  ⟨⟨[(["dump".toList], .file (Utf8.encode dump))], [], ⟨none, .error [], fun _ => .timedOut⟩⟩,
    .standard, .warning⟩

theorem frontEnds_showSame_returnsDump :
    ∃ document rendered, Document.analyze returnsDump = .ok document ∧
      renderText returnsDump .dump .standard = .ok rendered ∧
      document.lineSpans = [some ⟨1, 2, 3, 14⟩, some ⟨1, 2, 3, 14⟩, some ⟨1, 2, 3, 14⟩,
        some ⟨1, 2, 3, 14⟩, none] ∧
      rendered.map RenderedLine.span = document.lineSpans ∧
      CommandLine.Lists ((dumpSetting returnsDump).spans "dump".toList).out document.lineSpans
        (["fn f() \x7b", "    x // a.rs:1:2: 3:14 é", "   y", "\x7d", ""].map String.toList) := by
  have endings : returnsDump.ReturnsAtLineEnds := by
    have each : ∀ place < returnsDump.length, returnsDump[place]? = some '\r' →
        returnsDump[place + 1]? = some '\n' := by
      decide +kernel
    intro place isReturn
    exact each place (List.getElem?_eq_some_iff.mp isReturn).1 isReturn
  have someColor : Palette.standard ≠ [] := List.cons_ne_nil _ _
  have located : (dumpSetting returnsDump).workplace.files.locate
      (dumpSetting returnsDump).workplace.directory (Path.ofText "dump".toList) =
        .ok ["dump".toList] := by
    rfl
  have holds : (dumpSetting returnsDump).workplace.files.entry? ["dump".toList] =
      some (.file (Utf8.encode returnsDump)) := by
    rfl
  have edited : (Document.analyze returnsDump).toOption.map Document.lineSpans =
      some [some ⟨1, 2, 3, 14⟩, some ⟨1, 2, 3, 14⟩, some ⟨1, 2, 3, 14⟩, some ⟨1, 2, 3, 14⟩,
        none] := by
    decide +kernel
  have shown : (displayText returnsDump).lines =
      ["fn f() \x7b", "    x // a.rs:1:2: 3:14 é", "   y", "\x7d", ""].map String.toList := by
    decide +kernel
  have noEscape : '\x1b' ∉ returnsDump := by
    decide +kernel
  rcases frontEnds_showSame endings someColor located holds .dump with
    ⟨spans, document, rendered, analyzed, rendering, showSame⟩ | ⟨_, _, _, refused, _⟩
  · rw [analyzed] at edited
    refine ⟨document, rendered, analyzed, rendering, Option.some.inj edited, ?_, ?_⟩
    · rw [showSame.rendered, showSame.edited]
    · rw [← shown, showSame.edited]
      exact showSame.listed noEscape
  · rw [refused] at edited
    cases edited

end DumpLens
