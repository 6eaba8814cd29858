import DumpLens.Proofs.Lookup
import DumpLens.Session.Request

/-! Results by kind as maps, and lists without repetitions. -/

namespace DumpLens

variable {Kind : Type} [DecidableEq Kind]

namespace Results

variable {results : Results Kind} {kind other : Kind} {result : CompileResult}

/-- The result for a kind is the one that was inserted last for it. -/
theorem find?_insert_same : (results.insert kind result).find? kind = some result := by
  rw [insert, find?, List.lookup_append, lookup_filter_self, Option.none_or, List.lookup_cons_self]

theorem find?_insert_other (different : other ≠ kind) :
    (results.insert kind result).find? other = results.find? other := by
  have notLast : [(kind, result)].lookup other = none := by
    rw [List.lookup_cons, beq_false_of_ne different]
    rfl
  rw [insert, find?, List.lookup_append, lookup_filter_ne different, notLast, Option.or_none, find?]

theorem nodup_kinds_insert (nodup : results.kinds.Nodup) :
    (results.insert kind result).kinds.Nodup := by
  have sublist : ((results.filter (·.1 ≠ kind)).map Prod.fst).Sublist (results.map Prod.fst) :=
    List.filter_sublist.map Prod.fst
  rw [kinds, insert, List.map_append, List.nodup_append]
  refine ⟨nodup.sublist sublist, List.pairwise_singleton .., ?_⟩
  intro earlier member last lastMember
  rcases List.mem_map.mp member with ⟨entry, entryMember, rfl⟩
  rw [List.mem_singleton.mp lastMember]
  exact of_decide_eq_true (List.mem_filter.mp entryMember).2

theorem find?_eq_some_iff_mem (nodup : results.kinds.Nodup) :
    results.find? kind = some result ↔ (kind, result) ∈ results := by
  induction results with
  | nil => exact iff_of_false (by intro impossible; cases impossible) List.not_mem_nil
  | cons entry results induction =>
      rcases entry with ⟨first, own⟩
      rcases List.nodup_cons.mp nodup with ⟨absent, nodup⟩
      rw [find?, List.lookup_cons, List.mem_cons, Prod.mk.injEq]
      by_cases same : kind = first
      · subst same
        have notLater : (kind, result) ∉ results := by
          intro member
          exact absent (List.mem_map.mpr ⟨_, member, rfl⟩)
        simp [notLater, eq_comm]
      · rw [beq_false_of_ne same]
        simp only [same, false_and, false_or]
        exact induction nodup

/-- A result for a kind that is not there yet comes last. -/
theorem insert_of_not_mem (absent : kind ∉ results.kinds) :
    results.insert kind result = results ++ [(kind, result)] := by
  have kept : results.filter (·.1 ≠ kind) = results := by
    apply List.filter_eq_self.mpr
    intro entry member
    apply decide_eq_true
    rintro rfl
    exact absent (List.mem_map_of_mem member)
  rw [insert, kept]

end Results

/-! ## Lists without repetitions -/

variable {α : Type} [DecidableEq α]

theorem mem_distinct {values : List α} {value : α} : value ∈ distinct values ↔ value ∈ values := by
  induction values with
  | nil => rfl
  | cons first rest induction =>
      rw [distinct, List.mem_cons, List.mem_cons, List.mem_filter, induction]
      by_cases same : value = first
      · exact ⟨fun _ => .inl same, fun _ => .inl same⟩
      · simp [same]

theorem nodup_distinct (values : List α) : (distinct values).Nodup := by
  induction values with
  | nil => exact List.nodup_nil
  | cons first rest induction =>
      apply List.nodup_cons.mpr
      refine ⟨?_, induction.filter _⟩
      intro member
      exact of_decide_eq_true (List.mem_filter.mp member).2 rfl

theorem length_distinct_le (values : List α) : (distinct values).length ≤ values.length := by
  induction values with
  | nil => exact Nat.le_refl 0
  | cons first rest induction =>
      exact Nat.succ_le_succ (Nat.le_trans (List.length_filter_le ..) induction)

end DumpLens
