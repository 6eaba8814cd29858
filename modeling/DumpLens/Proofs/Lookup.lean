import Mathlib.Data.List.Forall2

/-! Looking up keys in lists of entries, and partners in lists that are related. -/

namespace DumpLens

variable {Key Value : Type} [BEq Key] [LawfulBEq Key] [DecidableEq Key]
  {entries : List (Key × Value)} {key other : Key}

/-- Dropping a key leaves the values of the others. -/
theorem lookup_filter_ne (different : other ≠ key) :
    (entries.filter (·.1 ≠ key)).lookup other = entries.lookup other := by
  induction entries with
  | nil => rfl
  | cons first entries induction =>
      rcases first with ⟨firstKey, value⟩
      rw [List.filter_cons]
      by_cases dropped : firstKey = key
      · have notFirst : (other == firstKey) = false := by
          rw [dropped]
          exact beq_false_of_ne different
        rw [if_neg (by simpa using dropped), List.lookup_cons, notFirst]
        exact induction
      · rw [if_pos (by simpa using dropped), List.lookup_cons, List.lookup_cons, induction]

theorem lookup_filter_self : (entries.filter (·.1 ≠ key)).lookup key = none := by
  refine List.lookup_eq_none_iff.mpr ?_
  intro entry member
  have different := (List.mem_filter.mp member).2
  simpa using Ne.symm (of_decide_eq_true different)

theorem exists_partner {α β : Type} {related : α → β → Prop} {first : List α} {second : List β}
    {partner : β} (pairs : List.Forall₂ related first second) (member : partner ∈ second) :
    ∃ own ∈ first, related own partner := by
  rcases List.getElem_of_mem member with ⟨index, bound, rfl⟩
  have inside : index < first.length := pairs.length_eq ▸ bound
  exact ⟨first[index], List.getElem_mem inside, pairs.get inside bound⟩

end DumpLens
