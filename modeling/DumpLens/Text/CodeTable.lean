/-! Sets of characters given by ranges of code points. -/

namespace DumpLens

/-- A set of code points as inclusive ranges. -/
abbrev CodeTable := List (Nat × Nat)

/-- A character belongs to a table when one of the ranges holds its code point. -/
def CodeTable.contains (table : CodeTable) (character : Char) : Bool :=
  table.any fun range => range.1 ≤ character.toNat && character.toNat ≤ range.2

theorem CodeTable.contains_iff {table : CodeTable} {character : Char} :
    table.contains character = true ↔
      ∃ range ∈ table, range.1 ≤ character.toNat ∧ character.toNat ≤ range.2 := by
  simp [CodeTable.contains]

end DumpLens
