import DumpLens.Render.Line

/-! Hovering over lines: what is asked of the source editor when the pointer
enters and leaves lines of a rendered dump. -/

namespace DumpLens

/-- What the source editor can be asked to do. -/
inductive EditorCall
  | highlight (request : EditorHighlight)
  | clear
  deriving DecidableEq, Repr

/-- What the pointer does. -/
inductive HoverEvent
  | enter (line : RenderedLine)
  | leave
  deriving DecidableEq, Repr

/-- The state of hovering: the request that the editor shows, if any. -/
structure Hover where
  active : Option EditorHighlight
  deriving DecidableEq, Repr

namespace Hover

/-- Nothing is shown. -/
def idle : Hover := ⟨none⟩

/-- Entering a line with a span marks it. Entering another line changes nothing.
Leaving clears the mark, if there is one. -/
def step (hover : Hover) : HoverEvent → List EditorCall × Hover
  | .enter line =>
    match line.editorHighlight with
    | some request => ([.highlight request], ⟨some request⟩)
    | none => ([], hover)
  | .leave =>
    match hover.active with
    | some _ => ([.clear], idle)
    | none => ([], hover)

/-- Everything that the editor is asked over events, and hovering after them. -/
def run (hover : Hover) : List HoverEvent → List EditorCall × Hover
  | [] => ([], hover)
  | event :: events =>
    let (calls, next) := hover.step event
    let (later, last) := next.run events
    (calls ++ later, last)

end Hover

end DumpLens
