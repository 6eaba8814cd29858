import DumpLens.Block.LineSpans
import DumpLens.Markup.Splitter
import DumpLens.Palette
import DumpLens.Text.Indent

/-! Rendered lines: the lines of a dump with their markup, spans and colours. -/

namespace DumpLens

/-- What can go wrong while a dump is rendered. -/
inductive RenderError
  /-- The spans of the lines cannot be found. -/
  | spans (cause : SpanError)
  /-- There is no colour to choose. -/
  | emptyPalette
  | unknownStyle (name : Text)
  deriving DecidableEq, Repr

/-! ## Requests to the source editor -/

/-- A range for the source editor to show and mark, as whole lines or not. -/
structure EditorHighlight where
  range : SourceSpan
  wholeLine : Bool
  deriving DecidableEq, Repr

/-- The request to mark a span. -/
def EditorHighlight.ofSpan (span : SourceSpan) : EditorHighlight :=
  ⟨span, span.wholeLine⟩

/-! ## Lines -/

/-- A line ready to be shown: its markup, the span it stands for and the colour
of that span. -/
structure RenderedLine where
  markup : Text
  span : Option SourceSpan
  color : Option Text
  deriving DecidableEq, Repr

namespace RenderedLine

/-- The request that the line makes to the source editor. -/
def editorHighlight (line : RenderedLine) : Option EditorHighlight :=
  line.span.map EditorHighlight.ofSpan

/-- A line from its markup and span. An empty line is shown as a newline, and
a line with a span needs a colour. -/
def make (palette : Palette) (markup : Text) : Option SourceSpan →
    Except RenderError RenderedLine
  | none => .ok ⟨if markup.isEmpty then ['\n'] else markup, none, none⟩
  | some span =>
    match palette.color? span with
    | some color => .ok ⟨if markup.isEmpty then ['\n'] else markup, some span, some color⟩
    | none => .error .emptyPalette

end RenderedLine

/-- The text of a dump as it is shown: with newlines as its only line endings
and with compact indentation. -/
def displayText (text : Text) : Text :=
  Indent.compact text.normalizeEndings

/-- Pairs spans with the fragments of markup for the same lines. A line without a
fragment is shown empty. -/
def pairLines (palette : Palette) : List (Option SourceSpan) → List Text →
    Except RenderError (List RenderedLine)
  | [], _ => .ok []
  | span :: spans, fragments => do
    let line ← RenderedLine.make palette (fragments.headD []) span
    let rest ← pairLines palette spans fragments.tail
    pure (line :: rest)

/-- The lines of a dump. -/
def renderText (text : Text) (language : Language) (palette : Palette) :
    Except RenderError (List RenderedLine) := do
  let shown := displayText text
  let spans ← (computeLineSpans shown.lines).mapError .spans
  pairLines palette spans (Markup.splitLines (highlight shown language))

end DumpLens
