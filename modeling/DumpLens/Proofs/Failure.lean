import Mathlib.Data.List.Forall2

/-! How computations that may fail end, by the ends of their parts. -/

namespace DumpLens

variable {α β ε δ : Type} {first : Except ε α} {next : α → Except ε β} {cause : ε} {value : β}

theorem bind_eq_ok_iff : first >>= next = .ok value ↔
    ∃ middle, first = .ok middle ∧ next middle = .ok value := by
  cases first with
  | error own => simp [bind, Except.bind]
  | ok middle => simp [bind, Except.bind]

theorem bind_eq_error_iff : first >>= next = .error cause ↔
    first = .error cause ∨ ∃ middle, first = .ok middle ∧ next middle = .error cause := by
  cases first with
  | error own => simp [bind, Except.bind]
  | ok middle => simp [bind, Except.bind]

/-- A computation in two parts succeeds where both parts do. -/
theorem bind_isOk_iff : (∃ value, first >>= next = .ok value) ↔
    ∃ middle, first = .ok middle ∧ ∃ value, next middle = .ok value := by
  simp only [bind_eq_ok_iff]
  rw [exists_comm]
  simp only [exists_and_left]

theorem pure_isOk {kept : α} : ∃ value, (pure kept : Except ε α) = .ok value :=
  ⟨kept, rfl⟩

@[simp] theorem pure_ne_error {kept : α} : (pure kept : Except ε α) ≠ .error cause := by
  intro impossible
  cases impossible

@[simp] theorem map_eq_error_iff {change : α → β} :
    first.map change = .error cause ↔ first = .error cause := by
  cases first <;> simp [Except.map]

theorem map_eq_ok_iff {change : α → β} (injective : Function.Injective change) {kept : α} :
    first.map change = .ok (change kept) ↔ first = .ok kept := by
  cases first <;> simp [Except.map, injective.eq_iff]

@[simp] theorem mapError_ok {change : ε → δ} {kept : α} :
    (Except.ok kept : Except ε α).mapError change = .ok kept := rfl

@[simp] theorem mapError_error {change : ε → δ} :
    (Except.error cause : Except ε α).mapError change = .error (change cause) := rfl

theorem mapError_eq_error_iff {change : ε → δ} {changed : δ} :
    first.mapError change = .error changed ↔
      ∃ own, first = .error own ∧ change own = changed := by
  cases first <;> simp

@[simp] theorem mapError_eq_ok_iff {change : ε → δ} {kept : α} :
    first.mapError change = .ok kept ↔ first = .ok kept := by
  cases first <;> simp

theorem mapM_cons_eq_error_iff {own : α} {values : List α} :
    (own :: values).mapM next = .error cause ↔
      next own = .error cause ∨
        ∃ answer, next own = .ok answer ∧ values.mapM next = .error cause := by
  rw [List.mapM_cons, bind_eq_error_iff]
  simp only [bind_eq_error_iff, pure_ne_error, and_false, exists_false, or_false]

theorem mapM_congr {values : List α} {other : α → Except ε β}
    (same : ∀ own ∈ values, next own = other own) : values.mapM next = values.mapM other := by
  induction values with
  | nil => rfl
  | cons first values induction =>
      rcases List.forall_mem_cons.mp same with ⟨firstSame, othersSame⟩
      rw [List.mapM_cons, List.mapM_cons, firstSame, induction othersSame]

/-- A list of computations succeeds where each of them does. -/
theorem mapM_eq_ok_iff {values : List α} {answers : List β} :
    values.mapM next = .ok answers ↔
      List.Forall₂ (fun own answer => next own = .ok answer) values answers := by
  induction values generalizing answers with
  | nil => simp [pure, Except.pure, eq_comm]
  | cons first values induction =>
      rw [List.mapM_cons, bind_eq_ok_iff, List.forall₂_cons_left_iff]
      simp only [bind_eq_ok_iff, induction]
      constructor
      · rintro ⟨own, isOwn, others, areOthers, ⟨⟩⟩
        exact ⟨own, others, isOwn, areOthers, rfl⟩
      · rintro ⟨own, others, isOwn, areOthers, rfl⟩
        exact ⟨own, isOwn, others, areOthers, rfl⟩

/-- A list of computations has the given values where each of them has its own. -/
theorem mapM_eq_ok_map_iff {values : List α} {given : α → β} :
    values.mapM next = .ok (values.map given) ↔ ∀ own ∈ values, next own = .ok (given own) := by
  rw [mapM_eq_ok_iff, List.forall₂_map_right_iff, List.forall₂_same]

/-- A list of computations fails as the first of them does that fails. -/
theorem mapM_eq_error_iff {values : List α} :
    values.mapM next = .error cause ↔
      ∃ front own behind, values = front ++ own :: behind ∧
        (∀ earlier ∈ front, ∃ answer, next earlier = .ok answer) ∧ next own = .error cause := by
  induction values with
  | nil => simp
  | cons first values induction =>
      rw [mapM_cons_eq_error_iff, induction]
      constructor
      · rintro (failed | ⟨answer, succeeds, front, own, behind, rfl, succeed, fails⟩)
        · exact ⟨[], first, values, rfl, List.forall_mem_nil _, failed⟩
        · exact ⟨first :: front, own, behind, rfl,
            List.forall_mem_cons.mpr ⟨⟨answer, succeeds⟩, succeed⟩, fails⟩
      · rintro ⟨front, own, behind, parts, succeed, fails⟩
        cases front with
        | nil =>
            cases parts
            exact .inl fails
        | cons head front =>
            cases parts
            rcases List.forall_mem_cons.mp succeed with ⟨⟨answer, succeeds⟩, others⟩
            exact .inr ⟨answer, succeeds, front, own, behind, rfl, others, fails⟩

theorem exists_of_mapM_eq_error {values : List α} (failed : values.mapM next = .error cause) :
    ∃ own ∈ values, next own = .error cause := by
  rcases mapM_eq_error_iff.mp failed with ⟨front, own, behind, rfl, _, ownFailed⟩
  exact ⟨own, List.mem_append_right front List.mem_cons_self, ownFailed⟩

end DumpLens
