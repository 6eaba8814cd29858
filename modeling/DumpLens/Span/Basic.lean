import DumpLens.Text.Basic

/-! Source spans: ranges of the compiled source that a dump line stands for. -/

namespace DumpLens

/-- A range of source text. Lines and columns count from one and both ends are
included. -/
structure SourceSpan where
  startLine : Int
  startCol : Int
  endLine : Int
  endCol : Int
  deriving DecidableEq, Repr

namespace SourceSpan

/-- A span names a line rather than a range of columns when it starts in the
first column and ends no later than there. -/
def wholeLine (span : SourceSpan) : Bool :=
  span.startCol == 1 && span.endCol ≤ 1

/-- A span as `L:C-L:C`. -/
def text (span : SourceSpan) : Text :=
  Text.ofInt span.startLine ++ ':' :: Text.ofInt span.startCol ++
    '-' :: Text.ofInt span.endLine ++ ':' :: Text.ofInt span.endCol

example : (SourceSpan.mk 3 5 5 10).text = "3:5-5:10".toList := by decide +kernel

end SourceSpan

/-! ## Failures -/

/-- What can go wrong while spans are read and spread over lines. -/
inductive SpanError
  /-- A numeral has too many digits. -/
  | overlong (digits : Nat)
  /-- The list of annotations ends before the list of lines. -/
  | missingEntry
  /-- A block without a closing line was asked for its length. -/
  | unclosedBlock
  /-- A span was to be written to a line that does not exist. -/
  | lineOutOfRange
  deriving DecidableEq, Repr

end DumpLens
