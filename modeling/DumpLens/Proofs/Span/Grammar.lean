import DumpLens.Proofs.Failure
import DumpLens.Proofs.Text.Digits
import DumpLens.Proofs.Text.Runs
import DumpLens.Span.Note

/-! The grammar of annotations. -/

namespace DumpLens

/-! ## Positions -/

/-- The numerals of a position, of which the second is as long as what follows allows. -/
structure Position.Leads (position : Position) (rest : Text) : Prop where
  someLine : position.line ≠ []
  lineDigits : ∀ character ∈ position.line, isDigit character = true
  column : IsRun isDigit position.column rest

theorem Position.Leads.line {position : Position} {rest : Text} (leads : position.Leads rest)
    (behind : Text) : IsRun isDigit position.line (':' :: behind) :=
  isRun_cons leads.someLine leads.lineDigits (by decide)

theorem Position.at?_eq_some_iff {input rest : Text} {position : Position} :
    Position.at? input = some (position, rest) ↔
      input = position.text ++ rest ∧ position.Leads rest := by
  constructor
  · intro read
    unfold Position.at? at read
    split at read
    · rename_i first line behind isLine isBehind
      split at read
      · rename_i second column isColumn
        cases read
        have wholeLine : input.takeWhile isDigit ++ input.dropWhile isDigit = input :=
          List.takeWhile_append_dropWhile
        have wholeColumn : behind.takeWhile isDigit ++ behind.dropWhile isDigit = behind :=
          List.takeWhile_append_dropWhile
        rw [isLine, isBehind] at wholeLine
        rw [isColumn] at wholeColumn
        have whole : input = first :: line ++ ':' :: (second :: column ++
            behind.dropWhile isDigit) := by
          rw [wholeColumn, wholeLine]
        refine ⟨?_, List.cons_ne_nil _ _, ?_, ?_⟩
        · rw [whole]
          simp [Position.text]
        · intro character member
          exact List.mem_takeWhile_imp (isLine ▸ member)
        · have isRun : behind.takeWhile isDigit ≠ [] →
              IsRun isDigit (behind.takeWhile isDigit) (behind.dropWhile isDigit) :=
            isRun_takeWhile
          rw [isColumn] at isRun
          exact isRun (List.cons_ne_nil _ _)
      · cases read
    · cases read
  · rintro ⟨rfl, leads⟩
    rcases position with ⟨line, column⟩
    have isLine := leads.line (column ++ rest)
    have isColumn := leads.column
    have shape : Position.text ⟨line, column⟩ ++ rest = line ++ ':' :: (column ++ rest) := by
      simp [Position.text]
    cases line with
    | nil => exact absurd rfl leads.someLine
    | cons first line =>
        cases column with
        | nil => exact absurd rfl isColumn.nonempty
        | cons second column =>
            rw [shape, Position.at?, isLine.takeWhile_eq, isLine.dropWhile_eq]
            simp only [isColumn.takeWhile_eq, isColumn.dropWhile_eq]

namespace SpanNote

/-- The end position of an annotation is that which follows the start after a colon and one
space. -/
def StopsWith (stop : Option Position) (behind : Text) : Prop :=
  ∀ position, stop = some position ↔
    ∃ rest, behind = ':' :: ' ' :: (position.text ++ rest) ∧ position.Leads rest

theorem stopsWith_stopAt? (behind : Text) : StopsWith (stopAt? behind).1 behind := by
  intro position
  constructor
  · intro isStop
    unfold stopAt? at isStop
    split at isStop
    · rename_i input
      split at isStop
      · rename_i stop rest read
        cases isStop
        rcases Position.at?_eq_some_iff.mp read with ⟨whole, leads⟩
        exact ⟨rest, by rw [whole], leads⟩
      · cases isStop
    · cases isStop
  · rintro ⟨rest, rfl, leads⟩
    have read := Position.at?_eq_some_iff.mpr ⟨rfl, leads⟩
    simp [stopAt?, read]

theorem StopsWith.unique {stop other : Option Position} {behind : Text}
    (stopsWith : StopsWith stop behind) (otherStops : StopsWith other behind) : stop = other := by
  apply Option.ext
  intro position
  rw [stopsWith position, otherStops position]

/-! ## Annotations -/

/-- Name characters in a line that stand between others, or at an end of the line. -/
structure NameRun (line front run back : Text) : Prop where
  parts : line = front ++ (run ++ back)
  isRun : IsRun isNameChar run back
  starts : ∀ character, front.getLast? = some character → isNameChar character = false

/-- A run is the name of a source file with a position behind it. -/
structure BeginsNote (run back : Text) (start : Position) (behind : Text) : Prop where
  file : ∃ stem, stem ≠ [] ∧ run = stem ++ extension
  position : back = ':' :: (start.text ++ behind)
  leads : start.Leads behind

/-- No run of a line begins an annotation. -/
def WithoutNote (line : Text) : Prop :=
  ∀ front run back start behind, NameRun line front run back →
    ¬ BeginsNote run back start behind

/-- The annotation at the leftmost run of a line that begins one. -/
def IsFirst (note : SpanNote) (line : Text) : Prop :=
  ∃ front back behind, NameRun line front note.file back ∧
    BeginsNote note.file back note.start behind ∧ StopsWith note.stop behind ∧
    ∀ earlier run earlierBack start earlierBehind, NameRun line earlier run earlierBack →
      earlier.length < front.length → ¬ BeginsNote run earlierBack start earlierBehind

theorem isFileName_iff {run : Text} :
    isFileName run = true ↔ ∃ stem, stem ≠ [] ∧ run = stem ++ extension := by
  simp only [isFileName, Bool.and_eq_true, decide_eq_true_eq, List.isSuffixOf_iff_suffix]
  constructor
  · rintro ⟨longer, stem, rfl⟩
    refine ⟨stem, ?_, rfl⟩
    rintro rfl
    exact absurd longer (Nat.lt_irrefl _)
  · rintro ⟨stem, nonempty, rfl⟩
    refine ⟨?_, List.suffix_append ..⟩
    have positive := List.length_pos_iff.mpr nonempty
    rw [List.length_append]
    omega

/-- At the front of a text an annotation is read that begins with the run there. -/
theorem at?_eq_some {input rest : Text} {note : SpanNote} (read : at? input = some (note, rest)) :
    ∃ back behind, input = note.file ++ back ∧ IsRun isNameChar note.file back ∧
      BeginsNote note.file back note.start behind ∧ StopsWith note.stop behind := by
  unfold at? at read
  simp only at read
  split at read
  · rename_i isFile
    split at read
    · rename_i behindColon isBack
      split at read
      · rename_i start behind isStart
        cases read
        have file := isFileName_iff.mp isFile
        have nonempty : input.takeWhile isNameChar ≠ [] := by
          intro nothing
          rw [nothing] at isFile
          exact absurd isFile (by decide)
        rcases Position.at?_eq_some_iff.mp isStart with ⟨whole, leads⟩
        refine ⟨input.dropWhile isNameChar, behind, List.takeWhile_append_dropWhile.symm,
          isRun_takeWhile nonempty, ⟨file, ?_, leads⟩, stopsWith_stopAt? behind⟩
        rw [isBack, whole]
      · cases read
    · cases read
  · cases read

theorem at?_of_beginsNote {run back behind : Text} {start : Position}
    (isRun : IsRun isNameChar run back) (begins : BeginsNote run back start behind) :
    at? (run ++ back) = some (⟨run, start, (stopAt? behind).1⟩, (stopAt? behind).2) := by
  have read := Position.at?_eq_some_iff.mpr ⟨rfl, begins.leads⟩
  simp only [at?, isRun.takeWhile_eq, isRun.dropWhile_eq]
  rw [if_pos (isFileName_iff.mpr begins.file), begins.position]
  simp only [read]

/-! ## The first annotation of a line -/

/-- A search gives what is read at the first place at which anything is. -/
theorem find?_eq_some {line : Text} {note : SpanNote} (found : find? line = some note) :
    ∃ front back rest, line = front ++ back ∧ at? back = some (note, rest) ∧
      ∀ earlier later, line = earlier ++ later → earlier.length < front.length →
        at? later = none := by
  induction line with
  | nil =>
      rw [find?] at found
      cases found
  | cons character line induction =>
      rw [find?_cons] at found
      cases read : at? (character :: line) with
      | some result =>
          rcases result with ⟨first, rest⟩
          rw [read] at found
          cases found
          refine ⟨[], character :: line, rest, rfl, read, ?_⟩
          intro earlier later _ before
          cases before
      | none =>
          rw [read] at found
          rcases induction found with ⟨front, back, rest, rfl, isRead, nothing⟩
          refine ⟨character :: front, back, rest, rfl, isRead, ?_⟩
          intro earlier later parts before
          cases earlier with
          | nil =>
              have same : character :: (front ++ back) = later := parts
              exact same ▸ read
          | cons _ earlier =>
              exact nothing earlier later (List.cons.inj parts).2 (Nat.lt_of_succ_lt_succ before)

theorem find?_eq_none {line front back : Text} (nothing : find? line = none)
    (parts : line = front ++ back) : at? back = none := by
  induction front generalizing line with
  | nil =>
      cases back with
      | nil => rfl
      | cons character back =>
          rw [parts, List.nil_append, find?_cons] at nothing
          split at nothing
          · cases nothing
          · assumption
  | cons character front induction =>
      rw [parts, List.cons_append, find?_cons] at nothing
      split at nothing
      · cases nothing
      · exact induction nothing rfl

theorem NameRun.at?_eq_some {line front run back behind : Text} {start : Position}
    (nameRun : NameRun line front run back) (begins : BeginsNote run back start behind) :
    ∃ result, at? (run ++ back) = some result :=
  ⟨_, at?_of_beginsNote nameRun.isRun begins⟩

theorem isFirst_of_find? {line : Text} {note : SpanNote} (found : find? line = some note) :
    note.IsFirst line := by
  rcases find?_eq_some found with ⟨front, input, rest, parts, read, nothing⟩
  rcases at?_eq_some read with ⟨back, behind, rfl, isRun, begins, stopsWith⟩
  refine ⟨front, back, behind, ⟨parts, isRun, ?_⟩, begins, stopsWith, ?_⟩
  · intro character isLast
    by_contra isName
    -- With a name character in front, an annotation could start there as well.
    rcases List.getLast?_eq_some_iff.mp isLast with ⟨earlier, rfl⟩
    have earlierNothing := nothing earlier (character :: (note.file ++ back)) (by simp [parts])
      (by simp)
    rw [at?_eq_none_of_cons (by simpa using isName) earlierNothing] at read
    cases read
  · intro earlier run earlierBack start earlierBehind nameRun before earlierBegins
    rcases nameRun.at?_eq_some earlierBegins with ⟨result, earlierRead⟩
    rw [nothing earlier (run ++ earlierBack) nameRun.parts before] at earlierRead
    cases earlierRead

theorem IsFirst.unique {line : Text} {note other : SpanNote} (isFirst : note.IsFirst line)
    (otherFirst : other.IsFirst line) : note = other := by
  rcases isFirst with ⟨front, back, behind, nameRun, begins, stopsWith, first⟩
  rcases otherFirst with ⟨otherFront, otherBack, otherBehind, otherRun, otherBegins, otherStops,
    otherFirst⟩
  have sameLength : front.length = otherFront.length := by
    rcases Nat.lt_trichotomy front.length otherFront.length with before | equal | after
    · exact absurd begins (otherFirst _ _ _ _ _ nameRun before)
    · exact equal
    · exact absurd otherBegins (first _ _ _ _ _ otherRun after)
  have inputs := (List.append_inj (nameRun.parts.symm.trans otherRun.parts) sameLength).2
  have read := at?_of_beginsNote nameRun.isRun begins
  rw [inputs, at?_of_beginsNote otherRun.isRun otherBegins] at read
  have notes := congrArg Prod.fst (Option.some.inj read)
  have rests : otherBehind = behind := by
    have backs := (nameRun.isRun.unique otherRun.isRun inputs).2
    rw [begins.position, otherBegins.position] at backs
    have starts := congrArg SpanNote.start notes
    simp only at starts
    rw [starts] at backs
    exact (List.append_cancel_left (List.cons.inj backs).2).symm
  rcases note with ⟨file, start, stop⟩
  rcases other with ⟨otherFile, otherStart, otherStop⟩
  simp only [SpanNote.mk.injEq] at notes ⊢
  exact ⟨notes.1.symm, notes.2.1.symm, stopsWith.unique (rests ▸ otherStops)⟩

theorem find?_eq_none_iff {line : Text} : find? line = none ↔ WithoutNote line := by
  constructor
  · intro nothing front run back start behind nameRun begins
    rcases nameRun.at?_eq_some begins with ⟨result, read⟩
    rw [find?_eq_none nothing nameRun.parts] at read
    cases read
  · intro without
    cases found : find? line with
    | none => rfl
    | some note =>
        rcases isFirst_of_find? found with ⟨front, back, behind, nameRun, begins, _⟩
        exact absurd begins (without front note.file back note.start behind nameRun)

theorem find?_eq_some_iff {line : Text} {note : SpanNote} :
    find? line = some note ↔ note.IsFirst line := by
  constructor
  · exact isFirst_of_find?
  · intro isFirst
    cases found : find? line with
    | none =>
        rcases isFirst with ⟨front, back, behind, nameRun, begins, _⟩
        exact absurd begins (find?_eq_none_iff.mp found _ _ _ _ _ nameRun)
    | some other => rw [(isFirst_of_find? found).unique isFirst]

/-! ## Spans -/

/-- The numerals of an annotation. -/
def numerals (note : SpanNote) : List Text :=
  (note.start :: note.stop.toList).flatMap fun position => [position.line, position.column]

/-- What an annotation stands for when its numerals can be read. -/
def denoted (note : SpanNote) : Option SourceSpan :=
  let stop := note.stop.getD note.start
  if Numeral.value note.start.line = 0 then none
  else some ⟨Numeral.value note.start.line, Numeral.value note.start.column,
    Numeral.value stop.line, Numeral.value stop.column⟩

theorem span_eq_denoted {note : SpanNote}
    (short : ∀ numeral ∈ note.numerals, numeral.length ≤ Numeral.limit) :
    note.span = .ok note.denoted := by
  have read (numeral : Text) (member : numeral ∈ note.numerals) :
      Numeral.read numeral = .ok (Numeral.value numeral) :=
    Numeral.read_of_short (short numeral member)
  rcases note with ⟨file, ⟨line, column⟩, stop⟩
  cases stop with
  | none =>
      simp only [span, read line (by simp [numerals]), read column (by simp [numerals]), denoted,
        bind, Except.bind]
      split <;> rfl
  | some stop =>
      simp only [span, read line (by simp [numerals]), read column (by simp [numerals]),
        read stop.line (by simp [numerals]), read stop.column (by simp [numerals]), denoted, bind,
        Except.bind]
      split <;> rfl

/-- An annotation denotes a span just if all of its numerals can be read. -/
theorem span_eq_some_iff {note : SpanNote} {span : SourceSpan} :
    note.span = .ok (some span) ↔
      (∀ numeral ∈ note.numerals, numeral.length ≤ Numeral.limit) ∧
        note.denoted = some span := by
  constructor
  · intro denotes
    rcases bind_eq_ok_iff.mp denotes with ⟨startLine, isLine, denotes⟩
    rcases bind_eq_ok_iff.mp denotes with ⟨startCol, isCol, denotes⟩
    rcases Numeral.read_eq_ok_iff.mp isLine with ⟨shortLine, rfl⟩
    rcases Numeral.read_eq_ok_iff.mp isCol with ⟨shortCol, rfl⟩
    split at denotes
    · cases denotes
    · rename_i someLine
      cases isStop : note.stop with
      | none =>
          rw [isStop] at denotes
          cases denotes
          simp [numerals, denoted, isStop, shortLine, shortCol, someLine]
      | some stop =>
          rw [isStop] at denotes
          rcases bind_eq_ok_iff.mp denotes with ⟨endLine, isEndLine, denotes⟩
          rcases bind_eq_ok_iff.mp denotes with ⟨endCol, isEndCol, denotes⟩
          rcases Numeral.read_eq_ok_iff.mp isEndLine with ⟨shortEndLine, rfl⟩
          rcases Numeral.read_eq_ok_iff.mp isEndCol with ⟨shortEndCol, rfl⟩
          cases denotes
          simp [numerals, denoted, isStop, shortLine, shortCol, someLine, shortEndLine,
            shortEndCol]
  · rintro ⟨short, denotes⟩
    rw [span_eq_denoted short, denotes]

end SpanNote

theorem parseSpan_eq_some_iff {line : Text} {span : SourceSpan} :
    parseSpan line = .ok (some span) ↔
      ∃ note : SpanNote, SpanNote.find? line = some note ∧ note.span = .ok (some span) := by
  rw [parseSpan]
  cases SpanNote.find? line with
  | none => simp
  | some note => simp

end DumpLens
