import DumpLens.Proofs.Span.Grammar
import DumpLens.Proofs.Text.Pattern

/-! Annotations as a pattern. The search that tries all ways to match the pattern finds the
annotation that is read run by run. -/

namespace DumpLens

/-- The file of an annotation and its four numerals. -/
def SpanNote.groups (note : SpanNote) : List (Option Text) :=
  [some note.file, some note.start.line, some note.start.column,
    note.stop.map Position.line, note.stop.map Position.column]

namespace Pattern

/-! ## Positions -/

def numeral : Pattern := group (many isDigit)

def colon : Pattern := one (· == ':')

def position : Pattern := both numeral (both colon numeral)

/-- A match of a position. -/
def ofPosition (position : Position) (rest : Text) : PatternMatch :=
  ⟨position.text, [some position.line, some position.column], rest⟩

theorem ways_numeral (input : Text) :
    numeral.ways input =
      (takings isDigit input).map fun (taken, rest) => ⟨taken, [some taken], rest⟩ := by
  rw [numeral, ways, ways, List.map_map]
  rfl

theorem at?_numeral_isRun {digits rest : Text} (isRun : IsRun isDigit digits rest) :
    numeral.at? (digits ++ rest) = some ⟨digits, [some digits], rest⟩ := by
  rw [at?, ways_numeral, List.head?_map, head?_takings isRun]
  rfl

theorem at?_numeral_none {input : Text} (noDigit : input.takeWhile isDigit = []) :
    numeral.at? input = none := by
  rw [at?, ways_numeral, takings_eq_nil noDigit]
  rfl

theorem at?_colon (second : Pattern) (input : Text) :
    (both colon second).at? input =
      match input with
      | ':' :: rest => (second.at? rest).map (PatternMatch.andThen ⟨[':'], [], rest⟩)
      | _ => none := by
  cases input with
  | nil => rfl
  | cons character rest =>
      rw [colon, at?_both_one_cons]
      split
      · rename_i isColon
        cases eq_of_beq isColon
        rfl
      · rename_i notColon
        split
        · rename_i equal
          cases equal
          exact absurd rfl notColon
        · rfl

theorem at?_position (input : Text) :
    position.at? input =
      (Position.at? input).map fun (found, rest) => ofPosition found rest := by
  rw [position, at?_both, ways_numeral, List.findSome?_map]
  cases read : Position.at? input with
  | some result =>
      rcases result with ⟨⟨line, column⟩, rest⟩
      rcases Position.at?_eq_some_iff.mp read with ⟨rfl, leads⟩
      have isLine := leads.line (column ++ rest)
      have shape : Position.text ⟨line, column⟩ ++ rest = line ++ ':' :: (column ++ rest) := by
        simp [Position.text]
      rw [shape]
      refine findSome?_of_only (List.mem_of_mem_head? (head?_takings isLine)) ?_ ?_
      · simp [at?_colon, at?_numeral_isRun leads.column, PatternMatch.andThen, ofPosition,
          Position.text]
      · rintro ⟨taken, behind⟩ member gives
        rcases mem_takings.mp member with ⟨parts, nonempty, within⟩
        simp only [Function.comp_apply, at?_colon] at gives
        split at gives
        · rename_i later
          have isTaken : IsRun isDigit taken (':' :: later) :=
            isRun_cons nonempty within (by decide)
          rcases isTaken.unique isLine parts.symm with ⟨rfl, behinds⟩
          rw [behinds]
        · exact absurd rfl gives
  | none =>
      refine List.findSome?_eq_none_iff.mpr ?_
      rintro ⟨taken, behind⟩ member
      rcases mem_takings.mp member with ⟨rfl, nonempty, within⟩
      simp only [Function.comp_apply, at?_colon]
      split
      · rename_i later
        by_cases noDigit : later.takeWhile isDigit = []
        · simp [at?_numeral_none noDigit]
        · have isColumn := isRun_takeWhile noDigit
          have leads : Position.Leads ⟨taken, later.takeWhile isDigit⟩
              (later.dropWhile isDigit) := ⟨nonempty, within, isColumn⟩
          have found := Position.at?_eq_some_iff.mpr ⟨rfl, leads⟩
          simp only [Position.text, List.append_assoc, List.cons_append,
            List.takeWhile_append_dropWhile] at found
          rw [found] at read
          cases read
      · rfl

/-! ## Annotations -/

def extension : Pattern :=
  both (one (· == '.')) (both (one (· == 'r')) (one (· == 's')))

def fileName : Pattern := group (both (many SpanNote.isNameChar) extension)

def ending : Pattern := possibly (both colon (both (one (· == ' ')) position))

/-- The pattern of annotations. Its groups are the file and the four numerals. -/
def note : Pattern := both fileName (both colon (both position ending))

theorem mem_ways_extension {input : Text} {found : PatternMatch} :
    found ∈ extension.ways input ↔
      ∃ rest, input = SpanNote.extension ++ rest ∧ found = ⟨SpanNote.extension, [], rest⟩ := by
  constructor
  · intro member
    simp only [extension, mem_ways_both, mem_ways_one, beq_iff_eq] at member
    rcases member with ⟨_, ⟨_, _, rfl, rfl, rfl⟩, _, ⟨_, ⟨_, _, isSecond, rfl, rfl⟩, _,
      ⟨_, rest, isThird, rfl, rfl⟩, rfl⟩, rfl⟩
    simp only at isSecond isThird
    subst isSecond isThird
    exact ⟨rest, rfl, rfl⟩
  · rintro ⟨rest, rfl, rfl⟩
    simp [extension, ways, SpanNote.extension, PatternMatch.andThen]

theorem mem_ways_fileName {input : Text} {found : PatternMatch} :
    found ∈ fileName.ways input ↔
      ∃ stem rest, stem ≠ [] ∧ (∀ character ∈ stem, SpanNote.isNameChar character = true) ∧
        input = stem ++ (SpanNote.extension ++ rest) ∧
        found = ⟨stem ++ SpanNote.extension, [some (stem ++ SpanNote.extension)], rest⟩ := by
  simp only [fileName, mem_ways_group, mem_ways_both, mem_ways_many, mem_ways_extension]
  constructor
  · rintro ⟨_, ⟨_, ⟨stem, _, parts, nonempty, within, rfl⟩, _, ⟨rest, rfl, rfl⟩, rfl⟩, rfl⟩
    exact ⟨stem, rest, nonempty, within, parts, rfl⟩
  · rintro ⟨stem, rest, nonempty, within, parts, rfl⟩
    exact ⟨_, ⟨_, ⟨stem, _, parts, nonempty, within, rfl⟩, _, ⟨rest, rfl, rfl⟩, rfl⟩, rfl⟩

/-- A match of the end of an annotation. -/
def ofStop (stop : Option Position) (rest : Text) : PatternMatch :=
  ⟨(stop.map fun stop => ':' :: ' ' :: stop.text).getD [],
    [stop.map Position.line, stop.map Position.column], rest⟩

theorem at?_ending (behind : Text) :
    ending.at? behind =
      some (ofStop (SpanNote.stopAt? behind).1 (SpanNote.stopAt? behind).2) := by
  have groups : (both colon (both (one (· == ' ')) position)).groupCount = 2 := rfl
  rw [ending, at?_possibly, at?_colon, groups]
  unfold SpanNote.stopAt?
  split
  · rename_i input
    cases input with
    | nil => rfl
    | cons character rest =>
        rw [at?_both_one_cons]
        by_cases isSpace : character = ' '
        · subst isSpace
          cases read : Position.at? rest with
          | none => simp [at?_position, read, ofStop]
          | some result => simp [at?_position, read, ofStop, ofPosition, PatternMatch.andThen]
        · simp [isSpace, ofStop]
  · rename_i noColon
    split
    · rename_i rest
      exact absurd rfl (noColon _)
    · rfl

theorem at?_position_ending (input : Text) :
    (both position ending).at? input =
      (Position.at? input).map fun (start, behind) =>
        (ofPosition start behind).andThen
          (ofStop (SpanNote.stopAt? behind).1 (SpanNote.stopAt? behind).2) := by
  have possible (input : Text) : ending.at? input ≠ none := by
    rw [at?_ending]
    exact Option.some_ne_none _
  rw [at?_both_of_possible possible, at?_position]
  cases Position.at? input with
  | none => rfl
  | some result => simp [at?_ending, ofPosition]

/-- The name in a match of a file name is a whole run where a colon follows. -/
theorem isRun_fileName {stem : Text} (rest : Text)
    (within : ∀ character ∈ stem, SpanNote.isNameChar character = true) :
    IsRun SpanNote.isNameChar (stem ++ SpanNote.extension) (':' :: rest) := by
  refine isRun_cons (List.append_ne_nil_of_right_ne_nil _ (List.cons_ne_nil _ _)) ?_ (by decide)
  intro character member
  rcases List.mem_append.mp member with inStem | inExtension
  · exact within character inStem
  · exact List.all_eq_true.mp (by decide : SpanNote.extension.all SpanNote.isNameChar = true)
      character inExtension

/-- A match of an annotation. -/
def ofNote (note : SpanNote) (rest : Text) : PatternMatch :=
  ⟨note.text, note.groups, rest⟩

/-- At the front of a text the preferred match is the annotation that is read there. -/
theorem at?_note (input : Text) :
    note.at? input = (SpanNote.at? input).map fun (found, rest) => ofNote found rest := by
  rw [note, at?_both]
  cases read : SpanNote.at? input with
  | some result =>
      rcases result with ⟨found, rest⟩
      rcases SpanNote.at?_eq_some read with ⟨back, behind, rfl, isRun, begins, _⟩
      rw [SpanNote.at?_of_beginsNote isRun begins] at read
      rcases begins with ⟨⟨stem, nonempty, isFile⟩, rfl, leads⟩
      have isStart := Position.at?_eq_some_iff.mpr ⟨rfl, leads⟩
      have within : ∀ character ∈ stem, SpanNote.isNameChar character = true := by
        intro character member
        exact isRun.within character (isFile ▸ List.mem_append_left _ member)
      refine findSome?_of_only (mem_ways_fileName.mpr
        ⟨stem, _, nonempty, within, by rw [isFile, List.append_assoc], rfl⟩) ?_ ?_
      · rcases found with ⟨file, start, stop⟩
        simp only [Option.some.injEq, Prod.mk.injEq, SpanNote.mk.injEq, true_and] at read
        rcases read with ⟨rfl, rfl⟩
        simp only at isFile isStart
        simp only [at?_colon, at?_position_ending, isStart, Option.map_some, ofNote, isFile,
          SpanNote.groups, SpanNote.text, PatternMatch.andThen, ofPosition, ofStop]
        cases (SpanNote.stopAt? behind).1 <;> simp
      · intro other member gives
        rcases mem_ways_fileName.mp member with ⟨otherStem, otherRest, _, otherWithin, parts, rfl⟩
        simp only [at?_colon] at gives
        split at gives
        · rename_i later
          rw [← List.append_assoc] at parts
          rcases isRun.unique (isRun_fileName later otherWithin) parts with ⟨sameFile, sameRest⟩
          rw [← sameFile, ← sameRest, isFile]
        · exact absurd rfl gives
  | none =>
      refine List.findSome?_eq_none_iff.mpr ?_
      intro other member
      rcases mem_ways_fileName.mp member with ⟨stem, rest, nonempty, within, rfl, rfl⟩
      simp only [at?_colon]
      split
      · rename_i later
        rw [at?_position_ending]
        cases isStart : Position.at? later with
        | none => rfl
        | some result =>
            rcases result with ⟨start, behind⟩
            rcases Position.at?_eq_some_iff.mp isStart with ⟨rfl, leads⟩
            rw [← List.append_assoc, SpanNote.at?_of_beginsNote (isRun_fileName _ within)
              ⟨⟨stem, nonempty, rfl⟩, rfl, leads⟩] at read
            cases read
      · rfl

/-- What the leftmost match in a line gives is what the first annotation gives, when they give
the same for an annotation at the front of a text. -/
theorem map_search_note {value : Type} {ofMatch : PatternMatch → value}
    {ofFirst : SpanNote → value}
    (agree : ∀ found rest, ofMatch (ofNote found rest) = ofFirst found) (line : Text) :
    (note.search line).map ofMatch = (SpanNote.find? line).map ofFirst := by
  induction line with
  | nil =>
      rw [search, at?_note, SpanNote.find?]
      rfl
  | cons character line induction =>
      rw [search, SpanNote.find?_cons, at?_note]
      cases SpanNote.at? (character :: line) with
      | none => exact induction
      | some result => exact congrArg some (agree result.1 result.2)

/-- The leftmost match in a line is the first annotation. -/
theorem search_note (line : Text) :
    (note.search line).map PatternMatch.groups = (SpanNote.find? line).map SpanNote.groups :=
  map_search_note (fun _ _ => rfl) line

end Pattern

/-! ## What a line says -/

/-- The pattern, the file and the span of a line are those of the annotation at the leftmost
run that begins one. Where no run does there are none, and a span is missing as well where
the annotation starts on line zero. -/
theorem parseSpan_readsFirst {line : Text}
    (short : ∀ note : SpanNote, note.IsFirst line →
      ∀ numeral ∈ note.numerals, numeral.length ≤ Numeral.limit) :
    (SpanNote.WithoutNote line →
      Pattern.note.search line = none ∧ spanFile line = none ∧ parseSpan line = .ok none) ∧
    (∀ note : SpanNote, note.IsFirst line →
      (Pattern.note.search line).map PatternMatch.groups = some note.groups ∧
        spanFile line = some note.file ∧ parseSpan line = .ok note.denoted) ∧
    (SpanNote.WithoutNote line ∨ ∃ note : SpanNote, note.IsFirst line) := by
  have searched := Pattern.search_note line
  refine ⟨?_, ?_, ?_⟩
  · intro without
    have nothing := SpanNote.find?_eq_none_iff.mpr without
    rw [nothing] at searched
    refine ⟨Option.map_eq_none_iff.mp searched, ?_, ?_⟩
    · rw [spanFile, nothing]
      rfl
    · rw [parseSpan, nothing]
  · intro note isFirst
    have found := SpanNote.find?_eq_some_iff.mpr isFirst
    rw [found] at searched
    refine ⟨searched, ?_, ?_⟩
    · rw [spanFile, found]
      rfl
    · rw [parseSpan, found]
      exact SpanNote.span_eq_denoted (short note isFirst)
  · cases found : SpanNote.find? line with
    | none => exact .inl (SpanNote.find?_eq_none_iff.mp found)
    | some note => exact .inr ⟨note, SpanNote.find?_eq_some_iff.mp found⟩

/-- A name without a stem, one without a line, a run that starts behind a colon and has
digits of another script, and half of a range behind a range. -/
def nearMisses : Text := ".rs:1:2 a.rs::3 b:c.rs:1:٣: 4:5: 6: d.rs:7:8".toList

theorem parseSpan_readsFirst_nearMisses :
    spanFile nearMisses = some "c.rs".toList ∧
      parseSpan nearMisses = .ok (some ⟨1, 3, 4, 5⟩) := by
  have found : SpanNote.find? nearMisses =
      some ⟨"c.rs".toList, ⟨['1'], ['٣']⟩, some ⟨['4'], ['5']⟩⟩ := by
    decide +kernel
  have isFirst := SpanNote.find?_eq_some_iff.mp found
  have short : ∀ note : SpanNote, note.IsFirst nearMisses →
      ∀ numeral ∈ note.numerals, numeral.length ≤ Numeral.limit := by
    intro note noteFirst
    rw [noteFirst.unique isFirst]
    decide
  exact ((parseSpan_readsFirst short).2.1 _ isFirst).2

end DumpLens
