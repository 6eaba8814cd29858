import DumpLens.Span.Basic

/-! Blocks: ranges of dump lines between a brace and the brace that closes it. -/

namespace DumpLens

/-- A block of dump lines, both ends included, with the span it lends to the
lines inside. A negative line counts back from the end of the dump. -/
structure Block where
  openLine : Int
  closeLine : Option Int
  span : Option SourceSpan
  deriving DecidableEq, Repr

namespace Block

/-- How many lines a closed block reaches beyond its first. -/
def length (block : Block) : Except SpanError Int :=
  match block.closeLine with
  | some closeLine => .ok (closeLine - block.openLine)
  | none => .error .unclosedBlock

end Block

end DumpLens
