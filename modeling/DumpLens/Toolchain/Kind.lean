import DumpLens.Text.Basic

/-! The kinds of dumps that can be asked of the compiler. -/

namespace DumpLens.DumpKind

/-- The kinds that the compiler knows, by name. -/
def all : List Text := [
  "normal".toList,
  "identified".toList,
  "expanded".toList,
  "expanded,identified".toList,
  "expanded,hygiene".toList,
  "ast-tree".toList,
  "ast-tree,expanded".toList,
  "hir".toList,
  "hir,identified".toList,
  "hir,typed".toList,
  "hir-tree".toList,
  "thir-tree".toList,
  "thir-flat".toList,
  "mir".toList,
  "stable-mir".toList,
  "mir-cfg".toList]

/-- The kind that is asked for when no known one is given. -/
def standard : Text := "hir".toList

/-- The name to ask the compiler for: a known kind as it is, anything else as the
standard kind. -/
def flag (kind : Text) : Text :=
  if kind ∈ all then kind else standard

end DumpLens.DumpKind
