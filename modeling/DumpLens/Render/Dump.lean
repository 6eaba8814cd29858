import DumpLens.Render.Line
import DumpLens.Toolchain.Result

/-! Rendered dumps: what is shown of a compile result. -/

namespace DumpLens

/-- The lines of a dump, the numbers beside them and the compiler's messages. -/
structure RenderedDump where
  lines : List RenderedLine
  lineNumbers : Text
  messages : Text
  deriving DecidableEq, Repr

def RenderedDump.lineSpans (dump : RenderedDump) : LineSpans :=
  dump.lines.map RenderedLine.span

/-- Shown instead of an empty dump. -/
def noOutput : Text := "(no output)".toList

/-- Shown instead of no messages. -/
def noMessages : Text := "(no messages)".toList

/-- The line numbers from one on, one a line, right aligned. -/
def gutter (count : Nat) : Text :=
  let width := (Text.ofNat count).length
  Text.unlines ((List.range count).map fun index => (Text.ofNat (index + 1)).leftpad width ' ')

example : gutter 10 = " 1\n 2\n 3\n 4\n 5\n 6\n 7\n 8\n 9\n10".toList := by decide +kernel

def renderDump (result : CompileResult) (language : Language) (palette : Palette) :
    Except RenderError RenderedDump := do
  let output := if result.output.isEmpty then noOutput else result.output
  let lines ← renderText output language palette
  pure {
    lines
    lineNumbers := gutter lines.length
    messages := if result.messages.isEmpty then noMessages else result.messages }

end DumpLens
