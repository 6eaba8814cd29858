import DumpLens.Proofs.Text.Lines
import DumpLens.Proofs.Text.Pattern

/-! Successive matches of a pattern in a text. A search goes on behind places where nothing
matches, and it does not see past a character that the pattern nowhere takes. So a pattern that
takes no newlines has the matches of a text on its lines. -/

namespace DumpLens

/-- A match with more text behind its rest. -/
def PatternMatch.followedBy (found : PatternMatch) (behind : Text) : PatternMatch :=
  { found with rest := found.rest ++ behind }

namespace Pattern

variable {pattern first second inner : Pattern} {member : Char → Bool} {stop : Char}
  {input line behind : Text} {found : PatternMatch}

/-- The leftmost match in a text, the leftmost one behind it, and so on. A match that takes
nothing is the last one. -/
def searchAll (pattern : Pattern) (input : Text) : List PatternMatch :=
  match pattern.search input with
  | none => []
  | some found =>
    if found.rest.length < input.length then found :: pattern.searchAll found.rest else [found]
termination_by input.length

/-! ## Matches and their texts -/

theorem mem_ways_possibly : found ∈ (possibly inner).ways input ↔
    found ∈ inner.ways input ∨ found = ⟨[], List.replicate inner.groupCount none, input⟩ := by
  rw [ways, List.mem_append, List.mem_singleton]

theorem mem_ways_of_at? (preferred : pattern.at? input = some found) : found ∈ pattern.ways input :=
  List.mem_of_mem_head? preferred

/-- A match takes the front of a text and leaves the rest. -/
theorem taken_append_rest (isWay : found ∈ pattern.ways input) :
    found.taken ++ found.rest = input := by
  induction pattern generalizing input found with
  | one member =>
      rcases mem_ways_one.mp isWay with ⟨character, rest, rfl, _, rfl⟩
      rfl
  | many member =>
      rcases mem_ways_many.mp isWay with ⟨taken, rest, rfl, _, _, rfl⟩
      rfl
  | both first second firstInduction secondInduction =>
      rcases mem_ways_both.mp isWay with ⟨before, isBefore, after, isAfter, rfl⟩
      rw [← firstInduction isBefore, ← secondInduction isAfter]
      exact List.append_assoc ..
  | possibly inner induction =>
      rcases mem_ways_possibly.mp isWay with isInner | rfl
      · exact induction isInner
      · rfl
  | group inner induction =>
      rcases mem_ways_group.mp isWay with ⟨ungrouped, isUngrouped, rfl⟩
      have whole := induction isUngrouped
      exact whole

/-! ## Characters that a pattern does not take -/

/-- None of the classes of a pattern has a character. -/
def Avoids (stop : Char) : Pattern → Prop
  | one member | many member => member stop = false
  | both first second => first.Avoids stop ∧ second.Avoids stop
  | possibly inner | group inner => inner.Avoids stop

theorem not_mem_taken (avoids : pattern.Avoids stop) (isWay : found ∈ pattern.ways input) :
    stop ∉ found.taken := by
  have rejected {member : Char → Bool} {taken : Text} (rejects : member stop = false)
      (within : ∀ character ∈ taken, member character = true) : stop ∉ taken := by
    intro isIn
    rw [within stop isIn] at rejects
    cases rejects
  induction pattern generalizing input found with
  | one member =>
      rcases mem_ways_one.mp isWay with ⟨character, rest, _, isMember, rfl⟩
      exact rejected avoids (List.forall_mem_singleton.mpr isMember)
  | many member =>
      rcases mem_ways_many.mp isWay with ⟨taken, rest, _, _, within, rfl⟩
      exact rejected avoids within
  | both first second firstInduction secondInduction =>
      rcases mem_ways_both.mp isWay with ⟨before, isBefore, after, isAfter, rfl⟩
      intro isIn
      rcases List.mem_append.mp isIn with inFirst | inSecond
      · exact firstInduction avoids.1 isBefore inFirst
      · exact secondInduction avoids.2 isAfter inSecond
  | possibly inner induction =>
      rcases mem_ways_possibly.mp isWay with isInner | rfl
      · exact induction avoids isInner
      · exact List.not_mem_nil
  | group inner induction =>
      rcases mem_ways_group.mp isWay with ⟨ungrouped, isUngrouped, rfl⟩
      have absent := induction avoids isUngrouped
      exact absent

theorem takings_append (stops : member stop = false) (line behind : Text) :
    takings member (line ++ stop :: behind) =
      (takings member line).map fun (taken, rest) => (taken, rest ++ stop :: behind) := by
  induction line with
  | nil => simp [takings, stops]
  | cons character line induction =>
      by_cases isMember : member character = true
      · simp only [List.cons_append, takings, if_pos isMember, induction, List.map_append,
          List.map_map, List.map_cons, List.map_nil]
        rfl
      · simp only [List.cons_append, takings, if_neg isMember, List.map_nil]

/-- What follows such a character does not count for a match in front of it. -/
theorem ways_append (avoids : pattern.Avoids stop) (line behind : Text) :
    pattern.ways (line ++ stop :: behind) =
      (pattern.ways line).map (PatternMatch.followedBy · (stop :: behind)) := by
  induction pattern generalizing line with
  | one member =>
      cases line with
      | nil =>
          have rejects : member stop = false := avoids
          simp [ways, rejects]
      | cons character line =>
          by_cases isMember : member character = true
          · simp [ways, isMember, PatternMatch.followedBy]
          · simp [ways, isMember]
  | many member =>
      rw [ways, takings_append avoids, ways, List.map_map, List.map_map]
      rfl
  | both first second firstInduction secondInduction =>
      rw [ways, firstInduction avoids.1, ways, List.flatMap_map, List.map_flatMap]
      congr 1
      funext before
      simp only [PatternMatch.followedBy, secondInduction avoids.2, List.map_map]
      rfl
  | possibly inner induction =>
      rw [ways, induction avoids, ways, List.map_append]
      rfl
  | group inner induction =>
      rw [ways, induction avoids, ways, List.map_map, List.map_map]
      rfl

theorem at?_append (avoids : pattern.Avoids stop) (line behind : Text) :
    pattern.at? (line ++ stop :: behind) =
      (pattern.at? line).map (PatternMatch.followedBy · (stop :: behind)) := by
  rw [at?, ways_append avoids, List.head?_map, at?]

/-! ## Searching on -/

theorem search_cons_of_none {character : Char} {rest : Text}
    (nothing : pattern.at? (character :: rest) = none) :
    pattern.search (character :: rest) = pattern.search rest := by
  rw [search, nothing, Option.none_or]

theorem search_of_at? (preferred : pattern.at? input = some found) :
    pattern.search input = some found := by
  cases input with
  | nil => exact preferred
  | cons character rest => rw [search, preferred, Option.some_or]

/-- A match that a search finds is a way to match at some place. -/
theorem exists_of_search (finds : pattern.search input = some found) :
    ∃ front back, input = front ++ back ∧ pattern.at? back = some found := by
  induction input with
  | nil => exact ⟨[], [], rfl, finds⟩
  | cons character rest induction =>
      rw [search, Option.or_eq_some_iff] at finds
      rcases finds with here | ⟨_, later⟩
      · exact ⟨[], character :: rest, rfl, here⟩
      · rcases induction later with ⟨front, back, rfl, isAt⟩
        exact ⟨character :: front, back, rfl, isAt⟩

/-- A pattern that takes something whenever it matches. -/
def Consumes (pattern : Pattern) : Prop :=
  ∀ input, ∀ found ∈ pattern.ways input, found.taken ≠ []

theorem searchAll_eq (consumes : pattern.Consumes) (input : Text) :
    pattern.searchAll input =
      match pattern.search input with
      | none => []
      | some found => found :: pattern.searchAll found.rest := by
  rw [searchAll]
  cases finds : pattern.search input with
  | none => rfl
  | some found =>
      rcases exists_of_search finds with ⟨front, back, rfl, isAt⟩
      have isWay := mem_ways_of_at? isAt
      have nonempty := List.length_pos_iff.mpr (consumes back found isWay)
      have shorter : found.rest.length < (front ++ back).length := by
        rw [← taken_append_rest isWay, List.length_append, List.length_append]
        omega
      exact if_pos shorter

theorem searchAll_nil (nothing : pattern.at? [] = none) : pattern.searchAll [] = [] := by
  rw [searchAll, search, nothing]

theorem searchAll_cons_of_none (consumes : pattern.Consumes) {character : Char} {rest : Text}
    (nothing : pattern.at? (character :: rest) = none) :
    pattern.searchAll (character :: rest) = pattern.searchAll rest := by
  rw [searchAll_eq consumes, searchAll_eq consumes, search_cons_of_none nothing]

theorem searchAll_of_at? (consumes : pattern.Consumes)
    (preferred : pattern.at? input = some found) :
    pattern.searchAll input = found :: pattern.searchAll found.rest := by
  rw [searchAll_eq consumes, search_of_at? preferred]

theorem head?_searchAll (pattern : Pattern) (input : Text) :
    (pattern.searchAll input).head? = pattern.search input := by
  rw [searchAll]
  cases pattern.search input with
  | none => rfl
  | some found =>
      dsimp only
      split <;> rfl

/-! ## Texts of matches -/

/-- The texts of the successive matches. -/
def textsIn (pattern : Pattern) (input : Text) : List Text :=
  (pattern.searchAll input).map PatternMatch.taken

theorem textsIn_nil (nothing : pattern.at? [] = none) : pattern.textsIn [] = [] := by
  rw [textsIn, searchAll_nil nothing, List.map_nil]

theorem textsIn_cons_of_none (consumes : pattern.Consumes) {character : Char} {rest : Text}
    (nothing : pattern.at? (character :: rest) = none) :
    pattern.textsIn (character :: rest) = pattern.textsIn rest := by
  rw [textsIn, searchAll_cons_of_none consumes nothing, textsIn]

theorem textsIn_of_at? (consumes : pattern.Consumes) (preferred : pattern.at? input = some found) :
    pattern.textsIn input = found.taken :: pattern.textsIn found.rest := by
  rw [textsIn, searchAll_of_at? consumes preferred, List.map_cons, textsIn]

theorem head?_textsIn (pattern : Pattern) (input : Text) :
    (pattern.textsIn input).head? = (pattern.search input).map PatternMatch.taken := by
  rw [textsIn, List.head?_map, head?_searchAll]

/-! ## Texts without matches -/

/-- At no place of a piece of text does a match start. -/
def StartsNowhere (pattern : Pattern) : Text → Text → Prop
  | [], _ => True
  | character :: piece, rest =>
    pattern.at? (character :: (piece ++ rest)) = none ∧ pattern.StartsNowhere piece rest

theorem textsIn_append (consumes : pattern.Consumes) {piece rest : Text}
    (nowhere : pattern.StartsNowhere piece rest) :
    pattern.textsIn (piece ++ rest) = pattern.textsIn rest := by
  induction piece with
  | nil => rfl
  | cons character piece induction =>
      rw [List.cons_append, textsIn_cons_of_none consumes nowhere.1, induction nowhere.2]

/-! ## Lines -/

section Lines

variable (consumes : pattern.Consumes) (avoids : pattern.Avoids '\n')
include consumes avoids

theorem textsIn_lines_cons {character : Char} {rest : Text}
    (nothing : pattern.at? (character :: rest) = none) :
    (Text.lines (character :: rest)).map pattern.textsIn =
      List.replicate ([character].count '\n') [] ++ rest.lines.map pattern.textsIn := by
  by_cases newline : character = '\n'
  · subst newline
    have empty : pattern.at? [] = none := by
      have cut := at?_append avoids [] rest
      rw [List.nil_append, nothing] at cut
      exact Option.map_eq_none_iff.mp cut.symm
    have first := Text.lines_append_newline List.not_mem_nil rest
    rw [List.nil_append] at first
    rw [first, List.map_cons, textsIn, searchAll_nil empty]
    rfl
  · have noCount : [character].count '\n' = 0 :=
      List.count_eq_zero_of_not_mem (by simpa using Ne.symm newline)
    rw [noCount, List.replicate_zero, List.nil_append]
    by_cases more : '\n' ∈ rest
    · rcases List.eq_append_cons_of_mem more with ⟨line, behind, rfl, whole⟩
      have cut := at?_append avoids (character :: line) behind
      rw [List.cons_append, nothing] at cut
      have inLine := Option.map_eq_none_iff.mp cut.symm
      have wholeToo : '\n' ∉ character :: line := by simp [whole, Ne.symm newline]
      rw [Text.lines_append_newline whole, ← List.cons_append, Text.lines_append_newline wholeToo,
        List.map_cons, List.map_cons, textsIn_cons_of_none consumes inLine]
    · have wholeToo : '\n' ∉ character :: rest := by simp [more, Ne.symm newline]
      rw [Text.lines_of_not_mem more, Text.lines_of_not_mem wholeToo, List.map_singleton,
        List.map_singleton, textsIn_cons_of_none consumes nothing]

/-- Where no match starts, only newlines count. -/
theorem textsIn_lines_append {piece rest : Text} (nowhere : pattern.StartsNowhere piece rest) :
    (Text.lines (piece ++ rest)).map pattern.textsIn =
      List.replicate (piece.count '\n') [] ++ rest.lines.map pattern.textsIn := by
  induction piece with
  | nil => rfl
  | cons character piece induction =>
      rw [List.cons_append, textsIn_lines_cons consumes avoids nowhere.1, induction nowhere.2,
        ← List.append_assoc, List.replicate_append_replicate, ← List.count_append,
        List.singleton_append]

/-- A match is the first one on its line. -/
theorem textsIn_lines_of_at? (preferred : pattern.at? input = some found) :
    input.lines.map pattern.textsIn =
      (found.rest.lines.map pattern.textsIn).modifyHead (found.taken :: ·) := by
  have isWay := mem_ways_of_at? preferred
  have whole := not_mem_taken avoids isWay
  have parts := taken_append_rest isWay
  by_cases more : '\n' ∈ found.rest
  · rcases List.eq_append_cons_of_mem more with ⟨line, behind, isRest, lineWhole⟩
    have wholeToo : '\n' ∉ found.taken ++ line := by simp [whole, lineWhole]
    rw [isRest, ← List.append_assoc] at parts
    have cut := at?_append avoids (found.taken ++ line) behind
    rw [parts, preferred] at cut
    rcases Option.map_eq_some_iff.mp cut.symm with ⟨inLine, isInLine, rfl⟩
    have lineRest : inLine.rest = line := List.append_cancel_right isRest
    rw [← parts, isRest, Text.lines_append_newline wholeToo, Text.lines_append_newline lineWhole,
      List.map_cons, List.map_cons, List.modifyHead_cons]
    have onLine := textsIn_of_at? consumes isInLine
    rw [lineRest] at onLine
    exact congrArg (· :: _) onLine
  · have wholeToo : '\n' ∉ input := by
      rw [← parts]
      simp [whole, more]
    rw [Text.lines_of_not_mem wholeToo, Text.lines_of_not_mem more, List.map_singleton,
      List.map_singleton, List.modifyHead_cons, textsIn_of_at? consumes preferred]

end Lines

end Pattern

end DumpLens
