import DumpLens.Api.Message
import DumpLens.Render.Dump
import DumpLens.Session.Request

/-! Answers: what the API says about compilations, as values and as JSON. -/

namespace DumpLens.Api

/-! ## Results -/

def resultJson (result : CompileResult) : Json := Json.record [
  ("success", .boolean result.success),
  ("ir_output", .ofText result.output),
  ("messages", .ofText result.messages)]

def resultsJson (results : Results CodePoints) : Json :=
  .object (results.map fun (kind, result) => (kind, resultJson result))

/-! ## Rendered dumps -/

def highlightJson (highlight : EditorHighlight) : Json := Json.record [
  ("start_line", Json.integer highlight.range.startLine),
  ("start_col", Json.integer highlight.range.startCol),
  ("end_line", Json.integer highlight.range.endLine),
  ("end_col", Json.integer highlight.range.endCol),
  ("whole_line", .boolean highlight.wholeLine)]

def lineJson (line : RenderedLine) : Json := Json.record [
  ("html", .ofText line.markup),
  ("span", Json.optional Json.ofSpan line.span),
  ("color", Json.optional .ofText line.color),
  ("highlight", Json.optional highlightJson line.editorHighlight)]

def renderedJson (success : Bool) (dump : RenderedDump) : Json := Json.record [
  ("success", .boolean success),
  ("messages", .ofText dump.messages),
  ("line_numbers", .ofText dump.lineNumbers),
  ("lines", .array (dump.lines.map lineJson))]

/-! ## Requests for several kinds -/

/-- The answer to a request for several kinds. It is superseded when results are absent,
as they were not stored any more because a newer request had begun. -/
structure CompileAllAnswer where
  superseded : Bool
  results : Results CodePoints
  deriving DecidableEq, Repr

/-- The answer to a request for the given kinds, of which some were collected. -/
def CompileAllAnswer.ofRequest (kinds : List CodePoints) (request : DumpLens.Request CodePoints) :
    CompileAllAnswer :=
  ⟨request.collected.length < (distinct kinds).length, request.collected⟩

def CompileAllAnswer.json (answer : CompileAllAnswer) : Json := Json.record [
  ("superseded", .boolean answer.superseded),
  ("results", resultsJson answer.results)]

/-! ## Kinds -/

/-- The kinds of dumps, and the one that is asked for where none is given. -/
def kindsJson (defaultKind : Text) : Json := Json.record [
  ("kinds", .array (DumpKind.all.map Json.ofText)),
  ("default", .ofText defaultKind)]

end DumpLens.Api
