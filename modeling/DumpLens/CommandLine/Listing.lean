import DumpLens.Block.LineSpans
import DumpLens.Text.Indent
import DumpLens.Toolchain.Kind

/-! Listings that commands print. -/

namespace DumpLens.CommandLine

/-! ## Spans -/

/-- The span of a line as it is listed. -/
def spanLabel : Option SourceSpan → Text
  | some span => span.text
  | none => ['-']

def labelWidth (spans : LineSpans) : Nat :=
  ((spans.filterMap id).map fun span => span.text.length).max?.getD 1

/-- A line of a dump behind its span, which is filled up with blanks. -/
def listedLine (width : Nat) (span : Option SourceSpan) (line : Text) : Text :=
  (spanLabel span).rightpad width ' ' ++ " | ".toList ++ line

example : listedLine 8 (some ⟨3, 5, 5, 1⟩) "x".toList = "3:5-5:1  | x".toList := by decide +kernel

/-- The lines of a dump, with compact indentation, behind their spans. -/
def spanListing (dump : Text) : Except SpanError (List Text) := do
  let lines := (Indent.compact dump).lines
  let spans ← computeLineSpans lines
  pure (List.zipWith (listedLine (labelWidth spans)) spans lines)

/-! ## Kinds -/

/-- A kind of dump, marked if it is the default. -/
def listedKind (defaultKind kind : Text) : Text :=
  if kind = defaultKind then kind ++ " (default)".toList else kind

/-- All kinds of dumps. -/
def kindListing (defaultKind : Text) : List Text :=
  DumpKind.all.map (listedKind defaultKind)

end DumpLens.CommandLine
