import DumpLens.Proofs.Text.Runs

/-! Patterns, and a search for them that tries all ways to match in order of preference. -/

namespace DumpLens

/-- A pattern of characters, some parts of which are kept as groups. -/
inductive Pattern
  | one (member : Char → Bool)
  /-- One member or more, and as many as possible. -/
  | many (member : Char → Bool)
  | both (first second : Pattern)
  /-- The inner pattern if possible, and otherwise nothing. -/
  | possibly (inner : Pattern)
  | group (inner : Pattern)

/-- A way to match: the text that is taken, the texts of the groups, and the rest. -/
structure PatternMatch where
  taken : Text
  groups : List (Option Text)
  rest : Text
  deriving DecidableEq, Repr

namespace PatternMatch

/-- One match right behind another. -/
def andThen (first second : PatternMatch) : PatternMatch :=
  ⟨first.taken ++ second.taken, first.groups ++ second.groups, second.rest⟩

/-- A match whose text is kept as a group. -/
def grouped (found : PatternMatch) : PatternMatch :=
  { found with groups := some found.taken :: found.groups }

end PatternMatch

namespace Pattern

def groupCount : Pattern → Nat
  | one _ | many _ => 0
  | both first second => first.groupCount + second.groupCount
  | possibly inner => inner.groupCount
  | group inner => inner.groupCount + 1

/-- The ways to take members from the front of a text, longest first, each with the rest. -/
def takings (member : Char → Bool) : Text → List (Text × Text)
  | [] => []
  | character :: rest =>
    if member character then
      (takings member rest).map (fun (taken, behind) => (character :: taken, behind)) ++
        [([character], rest)]
    else []

/-- The ways to match at the front of a text, the preferred ones first. -/
def ways : Pattern → Text → List PatternMatch
  | one _, [] => []
  | one member, character :: rest => if member character then [⟨[character], [], rest⟩] else []
  | many member, input => (takings member input).map fun (taken, rest) => ⟨taken, [], rest⟩
  | both first second, input =>
    (first.ways input).flatMap fun before => (second.ways before.rest).map before.andThen
  | possibly inner, input =>
    inner.ways input ++ [⟨[], List.replicate inner.groupCount none, input⟩]
  | group inner, input => (inner.ways input).map PatternMatch.grouped

/-- The preferred match at the front of a text. -/
def at? (pattern : Pattern) (input : Text) : Option PatternMatch :=
  (pattern.ways input).head?

/-- The leftmost match in a text. -/
def search (pattern : Pattern) : Text → Option PatternMatch
  | [] => pattern.at? []
  | character :: rest => (pattern.at? (character :: rest)).or (pattern.search rest)

variable {member : Char → Bool} {input taken rest : Text} {found : PatternMatch}
  {first second inner : Pattern}

theorem mem_ways_one : found ∈ (one member).ways input ↔
    ∃ character rest, input = character :: rest ∧ member character = true ∧
      found = ⟨[character], [], rest⟩ := by
  cases input with
  | nil => simp [ways]
  | cons character rest =>
      by_cases isMember : member character = true
      · simp [ways, isMember, and_assoc]
      · simp [ways, isMember, and_assoc]

theorem mem_ways_both : found ∈ (both first second).ways input ↔
    ∃ before ∈ first.ways input, ∃ after ∈ second.ways before.rest,
      found = before.andThen after := by
  simp [ways, eq_comm]

theorem mem_ways_group : found ∈ (group inner).ways input ↔
    ∃ ungrouped ∈ inner.ways input, found = ungrouped.grouped := by
  simp [ways, eq_comm]

/-! ## Preferred matches -/

theorem at?_both (first second : Pattern) (input : Text) :
    (both first second).at? input =
      (first.ways input).findSome? fun before => (second.at? before.rest).map before.andThen := by
  simp only [at?, ways, List.head?_flatMap, List.head?_map]

theorem at?_both_of_possible (possible : ∀ input, second.at? input ≠ none) (input : Text) :
    (both first second).at? input =
      (first.at? input).bind fun before => (second.at? before.rest).map before.andThen := by
  rw [at?_both, at?]
  cases first.ways input with
  | nil => rfl
  | cons before others =>
      cases after : second.at? before.rest with
      | none => exact absurd after (possible before.rest)
      | some found => simp [after]

theorem at?_both_one_cons (member : Char → Bool) (second : Pattern) (character : Char)
    (rest : Text) : (both (one member) second).at? (character :: rest) =
      if member character then
        (second.at? rest).map (PatternMatch.andThen ⟨[character], [], rest⟩)
      else none := by
  rw [at?_both, ways]
  split <;> simp

/-- What is possible is preferred to nothing. -/
theorem at?_possibly (inner : Pattern) (input : Text) :
    (possibly inner).at? input =
      some ((inner.at? input).getD ⟨[], List.replicate inner.groupCount none, input⟩) := by
  rw [at?, ways, List.head?_append, at?]
  cases (inner.ways input).head? <;> rfl

/-! ## Runs -/

theorem mem_takings : (taken, rest) ∈ takings member input ↔
    input = taken ++ rest ∧ taken ≠ [] ∧ ∀ character ∈ taken, member character = true := by
  induction input generalizing taken with
  | nil =>
      simp only [takings, List.not_mem_nil, false_iff]
      rintro ⟨nothing, nonempty, _⟩
      exact nonempty (List.append_eq_nil_iff.mp nothing.symm).1
  | cons first input induction =>
      by_cases isMember : member first = true
      · rw [takings, if_pos isMember, List.mem_append, List.mem_map, List.mem_singleton]
        constructor
        · rintro (⟨⟨earlier, behind⟩, isTaking, equal⟩ | equal)
          · cases equal
            rcases induction.mp isTaking with ⟨parts, _, within⟩
            exact ⟨by rw [parts]; rfl, List.cons_ne_nil _ _,
              List.forall_mem_cons.mpr ⟨isMember, within⟩⟩
          · cases equal
            exact ⟨rfl, List.cons_ne_nil _ _, List.forall_mem_singleton.mpr isMember⟩
        · rintro ⟨parts, nonempty, within⟩
          cases taken with
          | nil => exact absurd rfl nonempty
          | cons head taken =>
              rcases List.cons.inj parts with ⟨rfl, behind⟩
              cases taken with
              | nil => exact .inr (by rw [behind]; rfl)
              | cons next taken =>
                  refine .inl ⟨(next :: taken, rest), induction.mpr ⟨behind, ?_, ?_⟩, rfl⟩
                  · exact List.cons_ne_nil _ _
                  · exact (List.forall_mem_cons.mp within).2
      · rw [takings, if_neg isMember]
        simp only [List.not_mem_nil, false_iff]
        rintro ⟨parts, nonempty, within⟩
        cases taken with
        | nil => exact nonempty rfl
        | cons head taken =>
            rcases List.cons.inj parts with ⟨rfl, _⟩
            exact isMember (within first List.mem_cons_self)

theorem mem_ways_many : found ∈ (many member).ways input ↔
    ∃ taken rest, input = taken ++ rest ∧ taken ≠ [] ∧
      (∀ character ∈ taken, member character = true) ∧ found = ⟨taken, [], rest⟩ := by
  simp only [ways, List.mem_map]
  constructor
  · rintro ⟨⟨taken, rest⟩, isTaking, rfl⟩
    rcases mem_takings.mp isTaking with ⟨parts, nonempty, within⟩
    exact ⟨taken, rest, parts, nonempty, within, rfl⟩
  · rintro ⟨taken, rest, parts, nonempty, within, rfl⟩
    exact ⟨(taken, rest), mem_takings.mpr ⟨parts, nonempty, within⟩, rfl⟩

/-- The preferred taking is the whole run. -/
theorem head?_takings (isRun : IsRun member taken rest) :
    (takings member (taken ++ rest)).head? = some (taken, rest) := by
  rcases isRun with ⟨nonempty, within, ends⟩
  induction taken with
  | nil => exact absurd rfl nonempty
  | cons first taken induction =>
      rcases List.forall_mem_cons.mp within with ⟨isMember, within⟩
      rw [List.cons_append, takings, if_pos isMember, List.head?_append, List.head?_map]
      cases taken with
      | nil =>
          cases rest with
          | nil => rfl
          | cons character rest => simp [takings, ends character rfl]
      | cons next taken =>
          rw [induction (List.cons_ne_nil _ _) within]
          rfl

theorem takings_eq_nil (ends : input.takeWhile member = []) : takings member input = [] := by
  cases input with
  | nil => rfl
  | cons character input =>
      by_cases isMember : member character = true
      · rw [List.takeWhile_cons_of_pos isMember] at ends
        cases ends
      · rw [takings, if_neg isMember]

/-- A search in a list finds the one entry that gives anything. -/
theorem findSome?_of_only {α β : Type} {entries : List α} {entry : α} {give : α → Option β}
    {value : β} (member : entry ∈ entries) (gives : give entry = some value)
    (only : ∀ other ∈ entries, give other ≠ none → other = entry) :
    entries.findSome? give = some value := by
  cases found : entries.findSome? give with
  | none =>
      rw [List.findSome?_eq_none_iff.mp found entry member] at gives
      cases gives
  | some result =>
      rcases List.exists_of_findSome?_eq_some found with ⟨other, otherMember, otherGives⟩
      have same := only other otherMember (by simp [otherGives])
      rw [← gives, ← otherGives, same]

end Pattern

end DumpLens
