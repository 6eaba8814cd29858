import DumpLens.Span.Basic

/-! Background colours that make lines of one span look alike. -/

namespace DumpLens

/-- The colours to choose from, as style sheet values. -/
abbrev Palette := List Text

namespace SourceSpan

/-- A number for every span that is the same for equal spans. -/
def hash (span : SourceSpan) : Int :=
  span.startLine * 1000000 + span.startCol * 1000 + span.endLine * 100 + span.endCol

end SourceSpan

namespace Palette

/-- The colour of a span: its hash counts around the palette, backwards if it is
negative. An empty palette has no colour. -/
def color? (palette : Palette) (span : SourceSpan) : Option Text :=
  palette[(span.hash.fmod palette.length).toNat]?

/-- Faint backgrounds of many hues. -/
def standard : Palette := [
  "rgba(86, 156, 214, 0.12)".toList,
  "rgba(78, 201, 176, 0.12)".toList,
  "rgba(206, 145, 120, 0.12)".toList,
  "rgba(197, 134, 192, 0.12)".toList,
  "rgba(181, 206, 168, 0.12)".toList,
  "rgba(220, 220, 170, 0.12)".toList,
  "rgba(243, 139, 168, 0.12)".toList,
  "rgba(137, 180, 250, 0.12)".toList,
  "rgba(249, 226, 175, 0.12)".toList,
  "rgba(166, 227, 161, 0.12)".toList,
  "rgba(245, 194, 231, 0.12)".toList,
  "rgba(148, 226, 213, 0.12)".toList,
  "rgba(250, 179, 135, 0.12)".toList,
  "rgba(203, 166, 247, 0.12)".toList,
  "rgba(116, 199, 236, 0.12)".toList,
  "rgba(245, 224, 220, 0.12)".toList,
  "rgba(242, 205, 205, 0.12)".toList,
  "rgba(186, 194, 222, 0.12)".toList,
  "rgba(249, 249, 113, 0.12)".toList,
  "rgba(255, 154, 162, 0.12)".toList,
  "rgba(130, 170, 255, 0.12)".toList,
  "rgba(170, 255, 195, 0.12)".toList,
  "rgba(255, 183, 77, 0.12)".toList,
  "rgba(186, 147, 214, 0.12)".toList]

end Palette

end DumpLens
