import DumpLens.Text.Basic
import Mathlib.Data.List.TakeWhile

/-! Runs of characters of a class, as long as possible. -/

namespace DumpLens

/-- A run of members of a class in front of a rest that does not go on with one. -/
structure IsRun (member : Char → Bool) (run rest : Text) : Prop where
  nonempty : run ≠ []
  within : ∀ character ∈ run, member character = true
  ends : ∀ character, rest.head? = some character → member character = false

variable {member : Char → Bool} {run rest : Text}

theorem takeWhile_of_ends (ends : ∀ character, rest.head? = some character →
    member character = false) : rest.takeWhile member = [] := by
  cases rest with
  | nil => rfl
  | cons character rest => simp [ends character rfl]

theorem dropWhile_of_ends (ends : ∀ character, rest.head? = some character →
    member character = false) : rest.dropWhile member = rest := by
  cases rest with
  | nil => rfl
  | cons character rest => simp [ends character rfl]

theorem IsRun.takeWhile_eq (isRun : IsRun member run rest) :
    (run ++ rest).takeWhile member = run := by
  rw [List.takeWhile_append_of_pos isRun.within, takeWhile_of_ends isRun.ends, List.append_nil]

theorem IsRun.dropWhile_eq (isRun : IsRun member run rest) :
    (run ++ rest).dropWhile member = rest := by
  rw [List.dropWhile_append_of_pos isRun.within, dropWhile_of_ends isRun.ends]

/-- A text has one run at its front. -/
theorem IsRun.unique {other otherRest : Text} (isRun : IsRun member run rest)
    (otherRun : IsRun member other otherRest) (equal : run ++ rest = other ++ otherRest) :
    run = other ∧ rest = otherRest := by
  have runs := isRun.takeWhile_eq
  have rests := isRun.dropWhile_eq
  rw [equal, otherRun.takeWhile_eq] at runs
  rw [equal, otherRun.dropWhile_eq] at rests
  exact ⟨runs.symm, rests.symm⟩

theorem isRun_cons {character : Char} (nonempty : run ≠ [])
    (within : ∀ character ∈ run, member character = true) (stops : member character = false) :
    IsRun member run (character :: rest) := by
  refine ⟨nonempty, within, ?_⟩
  intro first isFirst
  rw [← Option.some.inj isFirst]
  exact stops

/-- What is taken from the front of a text is a run. -/
theorem isRun_takeWhile {input : Text} (nonempty : input.takeWhile member ≠ []) :
    IsRun member (input.takeWhile member) (input.dropWhile member) := by
  refine ⟨nonempty, fun character => List.mem_takeWhile_imp, ?_⟩
  intro character first
  have stops := List.head?_dropWhile_not member input
  rw [first] at stops
  exact stops

end DumpLens
