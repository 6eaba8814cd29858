import DumpLens.Proofs.Span.Grammar
import DumpLens.Token.Lexer
import Mathlib.Data.List.Infix
import Mathlib.Data.List.TakeWhile

/-! Lexemes of bare dump text, which has no quotes, comments and attributes. Where no annotation
starts, a lexeme is made of characters of names only, or of blanks and colons only. -/

namespace DumpLens

/-! ## Characters between names -/

/-- The characters that are no part of names. -/
def separators : List Char :=
  ':' :: blankTable.flatMap fun range =>
    (List.range' range.1 (range.2 + 1 - range.1)).map Char.ofNat

theorem mem_separators {character : Char} (between : SpanNote.isNameChar character = false) :
    character ∈ separators := by
  simp only [SpanNote.isNameChar, Bool.and_eq_false_iff, Bool.not_eq_false', bne_eq_false_iff_eq]
    at between
  rcases between with blank | colon
  · rcases CodeTable.contains_iff.mp blank with ⟨range, member, first, last⟩
    refine List.mem_cons_of_mem _ (List.mem_flatMap.mpr ⟨range, member, ?_⟩)
    refine List.mem_map.mpr ⟨character.toNat, List.mem_range'_1.mpr ?_, Char.ofNat_toNat character⟩
    omega
  · exact colon ▸ List.mem_cons_self

/-! ## Scanners -/

namespace Scanner

/-- What a scanner recognises has characters of a class only. -/
def StaysIn (scanner : Scanner) (member : Char → Bool) : Prop :=
  ∀ input length, scanner input = some length →
    ∀ character ∈ input.take length, member character = true

variable {member wider : Char → Bool} {first second scanner : Scanner}

theorem staysIn_one (included : ∀ character, member character = true → wider character = true) :
    (one member).StaysIn wider := by
  intro input length scanned
  cases input with
  | nil => cases scanned
  | cons character rest =>
      by_cases isMember : member character = true
      · cases (if_pos isMember).symm.trans scanned
        exact List.forall_mem_singleton.mpr (included character isMember)
      · cases (if_neg isMember).symm.trans scanned

theorem staysIn_run (included : ∀ character, member character = true → wider character = true) :
    (run member).StaysIn wider := by
  intro input length scanned character isIn
  cases scanned
  rw [← List.prefix_iff_eq_take.mp (List.takeWhile_prefix member)] at isIn
  exact included character (List.mem_takeWhile_imp isIn)

theorem run_of_run1 {input : Text} {length : Nat} (scanned : run1 member input = some length) :
    run member input = some length := by
  unfold run1 at scanned
  unfold run
  split at scanned
  · cases scanned
  · rename_i isRun
    rw [isRun, scanned]

theorem staysIn_run1 (included : ∀ character, member character = true → wider character = true) :
    (run1 member).StaysIn wider := by
  intro input length scanned
  exact staysIn_run included input length (run_of_run1 scanned)

theorem literal_eq_some_iff {word input : Text} {length : Nat} :
    literal word input = some length ↔ word <+: input ∧ word.length = length := by
  simp [literal]

theorem staysIn_literal {word : Text} (within : word.all member = true) :
    (literal word).StaysIn member := by
  intro input length scanned
  rcases literal_eq_some_iff.mp scanned with ⟨⟨rest, rfl⟩, rfl⟩
  rw [List.take_left]
  exact List.all_eq_true.mp within

theorem staysIn_literals {words : List Text}
    (within : words.all (·.all member) = true) :
    (literals words).StaysIn member := by
  intro input length scanned
  rcases List.exists_of_findSome?_eq_some scanned with ⟨word, isWord, isLiteral⟩
  exact staysIn_literal (List.all_eq_true.mp within word isWord) input length isLiteral

theorem andThen_eq_some_iff {input : Text} {length : Nat} :
    first.andThen second input = some length ↔
      ∃ front back, first input = some front ∧ second (input.drop front) = some back ∧
        front + back = length := by
  unfold andThen
  cases scanned : first input with
  | none => simp
  | some front => simp

theorem staysIn_andThen (firstStays : first.StaysIn member) (secondStays : second.StaysIn member) :
    (first.andThen second).StaysIn member := by
  intro input length scanned character isIn
  rcases andThen_eq_some_iff.mp scanned with ⟨front, back, isFront, isBack, rfl⟩
  rw [List.take_add] at isIn
  rcases List.mem_append.mp isIn with inFront | inBack
  · exact firstStays input front isFront character inFront
  · exact secondStays _ back isBack character inBack

theorem exists_of_literal_andThen {word input : Text} {length : Nat}
    (scanned : (literal word).andThen second input = some length) :
    ∃ rest back, input = word ++ rest ∧ second rest = some back := by
  rcases andThen_eq_some_iff.mp scanned with ⟨front, back, isFront, isBack, _⟩
  rcases literal_eq_some_iff.mp isFront with ⟨⟨rest, rfl⟩, rfl⟩
  rw [List.drop_left] at isBack
  exact ⟨rest, back, rfl, isBack⟩

theorem exists_of_optional_andThen {input : Text} {length : Nat}
    (scanned : (optional first).andThen second input = some length) :
    (∃ back, second input = some back) ∨
      ∃ back front, first input = some front ∧ second (input.drop front) = some back := by
  rcases andThen_eq_some_iff.mp scanned with ⟨front, back, isFront, isBack, _⟩
  cases here : first input with
  | none =>
      simp only [optional, here, Option.getD_none, Option.some.injEq] at isFront
      subst isFront
      exact .inl ⟨back, isBack⟩
  | some found =>
      simp only [optional, here, Option.getD_some, Option.some.injEq] at isFront
      subst isFront
      exact .inr ⟨back, found, rfl, isBack⟩

theorem sequence_cons {scanners : List Scanner} (more : scanners ≠ []) :
    sequence (first :: scanners) = first.andThen (sequence scanners) := by
  cases scanners with
  | nil => exact absurd rfl more
  | cons second scanners => rfl

theorem staysIn_nil : (sequence []).StaysIn member := by
  intro input length scanned
  cases scanned
  exact List.forall_mem_nil _

theorem staysIn_cons {scanners : List Scanner} (firstStays : first.StaysIn member)
    (others : (sequence scanners).StaysIn member) :
    (sequence (first :: scanners)).StaysIn member := by
  by_cases last : scanners = []
  · rw [last]
    exact firstStays
  · rw [sequence_cons last]
    exact staysIn_andThen firstStays others

theorem staysIn_optional (stays : scanner.StaysIn member) : (optional scanner).StaysIn member := by
  intro input length scanned
  cases here : scanner input with
  | none =>
      simp only [optional, here, Option.getD_none, Option.some.injEq] at scanned
      subst scanned
      exact List.forall_mem_nil _
  | some found =>
      simp only [optional, here, Option.getD_some, Option.some.injEq] at scanned
      subst scanned
      exact stays input found here

theorem staysIn_followedBy {condition : Text → Bool} (stays : scanner.StaysIn member) :
    (followedBy scanner condition).StaysIn member := by
  intro input length scanned
  unfold followedBy at scanned
  split at scanned
  · rename_i found here
    split at scanned
    · cases scanned
      exact stays input length here
    · cases scanned
  · cases scanned

/-- A fixed text that is a part of what is recognised is in the input. -/
theorem infix_of_sequence {word input : Text} {scanners : List Scanner} {length : Nat}
    (part : literal word ∈ scanners) (scanned : sequence scanners input = some length) :
    word <:+: input := by
  induction scanners generalizing input length with
  | nil => cases part
  | cons first scanners induction =>
      by_cases last : scanners = []
      · rw [last] at scanned part
        cases List.mem_singleton.mp part
        exact (literal_eq_some_iff.mp scanned).1.isInfix
      · rw [sequence_cons last] at scanned
        rcases andThen_eq_some_iff.mp scanned with ⟨front, back, isFront, isBack, _⟩
        rcases List.mem_cons.mp part with rfl | later
        · exact (literal_eq_some_iff.mp isFront).1.isInfix
        · exact (induction later isBack).trans (List.drop_suffix front input).isInfix

end Scanner

/-! ## Bare text -/

/-- What starts strings, characters and lifetimes, comments and attributes, and a line ending
that is no newline. -/
def openings : List Text :=
  ["\"", "'", "//", "/*", "#[", "#![", "\r"].map String.toList

/-- A text without strings, characters, lifetimes, comments and attributes. -/
def Text.Bare (text : Text) : Prop :=
  ∀ opening ∈ openings, ¬ opening <:+: text

instance (text : Text) : Decidable text.Bare :=
  inferInstanceAs (Decidable (∀ opening ∈ openings, ¬ opening <:+: text))

theorem Text.Bare.of_suffix {text rest : Text} (bare : text.Bare) (suffix : rest <:+ text) :
    rest.Bare := by
  intro opening member isInfix
  exact bare opening member (isInfix.trans suffix.isInfix)

/-- A lexeme of one kind of characters: those of names, or those between names. -/
def Uniform (lexeme : Text) : Prop :=
  (∀ character ∈ lexeme, SpanNote.isNameChar character = true) ∨
    ∀ character ∈ lexeme, SpanNote.isNameChar character = false

instance (lexeme : Text) : Decidable (Uniform lexeme) :=
  @instDecidableOr _ _ (List.decidableBAll _ _) (List.decidableBAll _ _)

theorem uniform_singleton (character : Char) : Uniform [character] := by
  cases isName : SpanNote.isNameChar character with
  | true => exact .inl (List.forall_mem_singleton.mpr isName)
  | false => exact .inr (List.forall_mem_singleton.mpr isName)

/-! ## Rules -/

namespace Rule

/-- The classes of characters that words and numbers are made of. -/
def wordClasses : List (Char → Bool) :=
  [isWord, isDigit, isNameStart, isNamePart, isUpper, isAsciiDigit, isNumberPart,
    fun character => isHexDigit character || character == '_',
    fun character => character == 'i' || character == 'u']

/-- None of the classes has a character that is no part of names. -/
theorem isNameChar_of_wordClass {member : Char → Bool} (isClass : member ∈ wordClasses)
    (character : Char) (isMember : member character = true) :
    SpanNote.isNameChar character = true := by
  have rejects : wordClasses.all (fun member => !separators.any member) = true := by
    decide +kernel
  have rejected := List.all_eq_true.mp rejects member isClass
  cases isName : SpanNote.isNameChar character with
  | true => rfl
  | false =>
      rw [Bool.not_eq_true'] at rejected
      have without := List.any_eq_false.mp rejected
      exact absurd isMember (without character (mem_separators isName))

/-- Of bare text that does not start with an annotation, a rule takes uniform lexemes, and
lexing stays outside of strings. -/
def TakesUniform (rule : Rule) : Prop :=
  ∀ previous input length, input.Bare → SpanNote.at? input = none →
    rule.scan previous input = some length → rule.next = .root ∧ Uniform (input.take length)

variable {kind : TokenKind} {scanner : Scanner} {scanners : List Scanner}

theorem takesUniform_of_names (stays : scanner.StaysIn SpanNote.isNameChar) :
    (plain kind scanner).TakesUniform := by
  intro previous input length _ _ scanned
  exact ⟨rfl, .inl (stays input length scanned)⟩

/-- A rule that needs what bare text does not have takes nothing. -/
theorem takesUniform_of_opening {rule : Rule} {opening : Text} (member : opening ∈ openings)
    (scan : ∀ previous input length, rule.scan previous input = some length → opening <:+: input) :
    rule.TakesUniform := by
  intro previous input length bare _ scanned
  exact absurd (scan previous input length scanned) (bare opening member)

theorem takesUniform_one (member : Char → Bool) : (plain kind (.one member)).TakesUniform := by
  intro previous input length _ _ scanned
  refine ⟨rfl, ?_⟩
  cases input with
  | nil => cases scanned
  | cons character rest =>
      by_cases isMember : member character = true
      · cases (if_pos isMember).symm.trans scanned
        exact uniform_singleton character
      · cases (if_neg isMember).symm.trans scanned

theorem takesUniform_literals {words : List Text} (uniform : ∀ word ∈ words, Uniform word) :
    (plain kind (.literals words)).TakesUniform := by
  intro previous input length _ _ scanned
  rcases List.exists_of_findSome?_eq_some scanned with ⟨word, isWord, isLiteral⟩
  rcases Scanner.literal_eq_some_iff.mp isLiteral with ⟨⟨rest, rfl⟩, rfl⟩
  rw [List.take_left]
  exact ⟨rfl, uniform word isWord⟩

theorem takesUniform_blank : (plain kind (.run1 isBlank)).TakesUniform := by
  intro previous input length _ _ scanned
  refine ⟨rfl, .inr ?_⟩
  have stays : (Scanner.run1 isBlank).StaysIn isBlank := Scanner.staysIn_run1 fun _ blank => blank
  intro character isIn
  simp [SpanNote.isNameChar, stays input length scanned character isIn]

theorem takesUniform_spanNote : (plain kind spanNote).TakesUniform := by
  intro previous input length _ nothing scanned
  have noLexeme : spanNote input = none := by
    rw [spanNote, nothing]
    rfl
  cases noLexeme.symm.trans scanned

theorem takesUniform_word (accept : Text → Bool) : (word kind accept).TakesUniform := by
  intro previous input length _ _ scanned
  have stays : (Scanner.run isWord).StaysIn SpanNote.isNameChar :=
    Scanner.staysIn_run (isNameChar_of_wordClass (by simp [wordClasses]))
  refine ⟨rfl, .inl (stays input length ?_)⟩
  simp only [word] at scanned
  split at scanned
  · cases scanned
  · split at scanned
    · cases scanned
    · rename_i isRun
      split at scanned
      · rw [← scanned, ← isRun]
        rfl
      · cases scanned

/-- An attribute starts with one of two openings. -/
theorem takesUniform_attribute : (plain kind attributeText).TakesUniform := by
  intro previous input length bare _ scanned
  rcases Scanner.exists_of_literal_andThen scanned with ⟨rest, _, rfl, behindHash⟩
  rcases Scanner.exists_of_optional_andThen behindHash with ⟨_, bracket⟩ | ⟨_, front, mark, bracket⟩
  · rcases Scanner.exists_of_literal_andThen bracket with ⟨inside, _, rfl, _⟩
    have opens : ['#', '['] <+: ['#'] ++ (['['] ++ inside) := ⟨inside, rfl⟩
    exact absurd opens.isInfix (bare _ (by decide))
  · rcases Scanner.literal_eq_some_iff.mp mark with ⟨⟨behind, rfl⟩, rfl⟩
    rw [List.drop_left] at bracket
    rcases Scanner.exists_of_literal_andThen bracket with ⟨inside, _, rfl, _⟩
    have opens : ['#', '!', '['] <+: ['#'] ++ (['!'] ++ (['['] ++ inside)) := ⟨inside, rfl⟩
    exact absurd opens.isInfix (bare _ (by decide))

open Scanner in
theorem staysIn_digits : digits.StaysIn SpanNote.isNameChar :=
  staysIn_cons (staysIn_one (isNameChar_of_wordClass (by simp [wordClasses])))
    (staysIn_cons (staysIn_run (isNameChar_of_wordClass (by simp [wordClasses]))) staysIn_nil)

open Scanner in
theorem staysIn_integerSuffix : integerSuffix.StaysIn SpanNote.isNameChar :=
  staysIn_cons (staysIn_optional (staysIn_literal (by decide)))
    (staysIn_cons (staysIn_one (isNameChar_of_wordClass (by simp [wordClasses])))
      (staysIn_cons (staysIn_literals (by decide)) staysIn_nil))

open Scanner in
theorem staysIn_floatSuffix : floatSuffix.StaysIn SpanNote.isNameChar :=
  staysIn_cons (staysIn_optional (staysIn_literal (by decide)))
    (staysIn_cons (staysIn_literal (by decide))
      (staysIn_cons (staysIn_literals (by decide)) staysIn_nil))

open Scanner in
theorem staysIn_hexNumberText : hexNumberText.StaysIn SpanNote.isNameChar :=
  staysIn_cons (staysIn_literal (by decide))
    (staysIn_cons (staysIn_run1 (isNameChar_of_wordClass (by simp [wordClasses])))
      (staysIn_cons (staysIn_optional staysIn_integerSuffix) staysIn_nil))

open Scanner in
theorem staysIn_floatNumberText : floatNumberText.StaysIn SpanNote.isNameChar :=
  staysIn_cons staysIn_digits
    (staysIn_cons (staysIn_literal (by decide))
      (staysIn_cons staysIn_digits
        (staysIn_cons (staysIn_optional staysIn_floatSuffix) staysIn_nil)))

open Scanner in
theorem staysIn_integerNumberText : integerNumberText.StaysIn SpanNote.isNameChar :=
  staysIn_cons staysIn_digits
    (staysIn_cons (staysIn_optional staysIn_integerSuffix) staysIn_nil)

open Scanner in
theorem staysIn_syntaxContext : syntaxContext.StaysIn SpanNote.isNameChar :=
  staysIn_cons (staysIn_literal (by decide))
    (staysIn_cons (staysIn_run1 (isNameChar_of_wordClass (by simp [wordClasses])))
      (staysIn_cons (staysIn_literal (by decide)) staysIn_nil))

open Scanner in
theorem staysIn_lowerName : lowerName.StaysIn SpanNote.isNameChar :=
  staysIn_cons (staysIn_one (isNameChar_of_wordClass (by simp [wordClasses])))
    (staysIn_cons (staysIn_run (isNameChar_of_wordClass (by simp [wordClasses]))) staysIn_nil)

open Scanner in
theorem staysIn_upperName : upperName.StaysIn SpanNote.isNameChar :=
  staysIn_cons (staysIn_one (isNameChar_of_wordClass (by simp [wordClasses])))
    (staysIn_cons (staysIn_run (isNameChar_of_wordClass (by simp [wordClasses]))) staysIn_nil)

open Scanner in
theorem takesUniform_root : ∀ rule ∈ root, rule.TakesUniform := by
  have unopened (opening : Text) {kind : TokenKind} {scanners : List Scanner} {next : LexState}
      (member : opening ∈ openings) (part : literal opening ∈ scanners) :
      (Rule.mk kind (fun _ => sequence scanners) next).TakesUniform :=
    takesUniform_of_opening member fun _ _ _ scanned => infix_of_sequence part scanned
  simp only [root, List.forall_mem_cons]
  refine ⟨takesUniform_blank, takesUniform_spanNote, takesUniform_of_names staysIn_syntaxContext,
    unopened ['/', '/'] (by decide) (by simp),
    unopened ['/', '*'] (by decide) (by simp),
    unopened ['"'] (by decide) (by simp),
    unopened ['\''] (by decide) (by simp),
    unopened ['\''] (by decide) (by simp),
    takesUniform_of_names staysIn_hexNumberText, takesUniform_of_names staysIn_floatNumberText,
    takesUniform_of_names staysIn_integerNumberText, takesUniform_word _, takesUniform_word _,
    takesUniform_word _, takesUniform_word _, takesUniform_word _, takesUniform_word _,
    takesUniform_word _, takesUniform_word _, takesUniform_attribute, ?callMacro,
    takesUniform_of_names staysIn_upperName,
    takesUniform_of_names (staysIn_followedBy staysIn_lowerName),
    takesUniform_of_names (staysIn_followedBy staysIn_lowerName),
    takesUniform_of_names staysIn_lowerName, takesUniform_literals (by decide +kernel),
    takesUniform_one _, takesUniform_one _, List.forall_mem_nil _⟩
  exact takesUniform_of_names
    (staysIn_cons staysIn_lowerName (staysIn_cons (staysIn_literal (by decide)) staysIn_nil))

end Rule

/-! ## Next tokens -/

theorem uniform_nextToken (previous : Option Char) {first : Char} {rest : Text}
    (bare : Text.Bare (first :: rest)) (nothing : SpanNote.at? (first :: rest) = none) :
    (nextToken .root previous (first :: rest)).2.2 = .root ∧
      Uniform (first :: rest.take ((nextToken .root previous (first :: rest)).2.1 - 1)) := by
  unfold nextToken
  dsimp only
  split
  · rename_i token found
    rcases List.exists_of_findSome?_eq_some found with ⟨rule, isRule, scans⟩
    rcases Option.map_eq_some_iff.mp scans with ⟨length, scanned, rfl⟩
    rcases Rule.takesUniform_root rule isRule previous _ length bare nothing scanned with
      ⟨next, uniform⟩
    refine ⟨next, ?_⟩
    cases length with
    | zero => exact uniform_singleton first
    | succ length => exact uniform
  · split
    · exact ⟨rfl, uniform_singleton first⟩
    · exact ⟨rfl, uniform_singleton first⟩

/-- Where an annotation starts, no rule comes before that of annotations. -/
theorem nextToken_of_note {previous : Option Char} {input rest : Text} {note : SpanNote}
    (read : SpanNote.at? input = some (note, rest)) :
    nextToken .root previous input = (.marker, note.text.length, .root) := by
  have noBlank : Scanner.run1 isBlank input = none := by
    rcases SpanNote.at?_eq_some read with ⟨back, _, rfl, isRun, _, _⟩
    rcases List.exists_cons_of_ne_nil isRun.nonempty with ⟨first, file, isFile⟩
    have isName := isRun.within first (isFile ▸ List.mem_cons_self)
    simp only [SpanNote.isNameChar, Bool.and_eq_true, Bool.not_eq_true'] at isName
    simp [Scanner.run1, isFile, isName.1]
  have noted : Rule.spanNote input = some note.text.length := by
    rw [Rule.spanNote, read]
    rfl
  simp [nextToken, Rule.ofState, Rule.root, Rule.plain, noBlank, noted]

end DumpLens
