import DumpLens.Proofs.Text.Runs
import DumpLens.Proofs.Token.Steps

/-! Errors of the lexer. A character is an error where no rule recognises it. Inside a string that
is a backslash that starts no escape, and outside of strings a character that starts no lexeme by
itself. -/

namespace DumpLens

/-! ## What is recognised -/

/-- The escapes inside strings. -/
inductive IsEscape : Text → Prop
  | single {character : Char} (known : character ∈ "nrt\\\"'0".toList) :
      IsEscape ['\\', character]
  | byte {first second : Char} (high : isHexDigit first = true) (low : isHexDigit second = true) :
      IsEscape ['\\', 'x', first, second]
  | codePoint {digits : Text} (some : digits ≠ [])
      (hex : ∀ digit ∈ digits, isHexDigit digit = true) :
      IsEscape ('\\' :: 'u' :: '\x7b' :: digits ++ ['\x7d'])

/-- An escape stands at the front of a text. -/
def StartsEscape (text : Text) : Prop :=
  ∃ escape, IsEscape escape ∧ escape <+: text

/-- The characters that can be an error outside of strings: a quote, a backslash and a backquote,
control characters that are not blank, and those beyond the first 128 that are not blank. -/
def IsStray (character : Char) : Prop :=
  character ∈ ['\'', '\\', '`'] ∨
    isBlank character = false ∧
      (character.toNat < 0x20 ∨ character.toNat = 0x7f ∨ 0x80 ≤ character.toNat)

instance (character : Char) : Decidable (IsStray character) :=
  inferInstanceAs (Decidable (_ ∨ _ ∧ (_ ∨ _ ∨ _)))

theorem IsStray.mem_of_printable {character : Char} (stray : IsStray character)
    (visible : 0x20 ≤ character.toNat) (ascii : character.toNat < 0x7f) :
    character ∈ ['\'', '\\', '`'] := by
  rcases stray with known | ⟨_, early | deleted | beyond⟩
  · exact known
  all_goals omega

namespace Scanner

variable {member : Char → Bool} {first second scanner : Scanner} {scanners : List Scanner}
  {input rest : Text} {character : Char}

theorem exists_of_one {length : Nat} (scanned : one member input = some length) :
    ∃ character rest, input = character :: rest ∧ member character = true ∧ length = 1 := by
  cases input with
  | nil => cases scanned
  | cons character rest =>
      by_cases isMember : member character = true
      · cases (if_pos isMember).symm.trans scanned
        exact ⟨character, rest, rfl, isMember, rfl⟩
      · cases (if_neg isMember).symm.trans scanned

theorem one_eq_none_iff : one member (character :: rest) = none ↔ member character = false := by
  simp [one]

theorem run1_eq_none_iff : run1 member (character :: rest) = none ↔ member character = false := by
  cases isMember : member character <;> simp [run1, isMember]

theorem exists_of_run1 {length : Nat} (scanned : run1 member input = some length) :
    ∃ run rest, input = run ++ rest ∧ IsRun member run rest ∧ length = run.length := by
  have some := (advances_run1 _ _ scanned).1
  cases run_of_run1 scanned
  exact ⟨_, _, List.takeWhile_append_dropWhile.symm,
    isRun_takeWhile (List.length_pos_iff.mp some), rfl⟩

theorem run1_of_isRun {run : Text} (isRun : IsRun member run rest) :
    run1 member (run ++ rest) = some run.length := by
  rcases List.exists_cons_of_ne_nil isRun.nonempty with ⟨first, others, rfl⟩
  simp only [run1, isRun.takeWhile_eq]

theorem literal_andThen_ne_none {word : Text} (scans : second rest ≠ none) :
    (literal word).andThen second (word ++ rest) ≠ none := by
  rcases Option.ne_none_iff_exists'.mp scans with ⟨back, isBack⟩
  apply Option.ne_none_iff_exists'.mpr
  refine ⟨_, andThen_eq_some_iff.mpr ⟨word.length, back, ?_, ?_, rfl⟩⟩
  · exact literal_eq_some_iff.mpr ⟨List.prefix_append word rest, rfl⟩
  · rw [List.drop_left]
    exact isBack

theorem orElse_ne_none_iff :
    first.orElse second input ≠ none ↔ first input ≠ none ∨ second input ≠ none := by
  rw [orElse, ne_eq, Option.or_eq_none_iff, not_and_or]

/-- A scanner that recognises something, possibly nothing, in front of every text. -/
def Total (scanner : Scanner) : Prop :=
  ∀ input, scanner input ≠ none

@[simp] theorem total_run : (run member).Total := by
  intro input
  exact Option.some_ne_none _

@[simp] theorem total_optional : (optional scanner).Total := by
  intro input
  exact Option.some_ne_none _

theorem andThen_eq_none (fails : first.andThen second input = none) (total : second.Total) :
    first input = none := by
  cases scanned : first input with
  | none => rfl
  | some length =>
      simp only [andThen, scanned, Option.map_eq_none_iff] at fails
      exact absurd fails (total _)

theorem total_sequence (total : ∀ scanner ∈ scanners, scanner.Total) :
    (sequence scanners).Total := by
  induction scanners with
  | nil =>
      intro input
      exact Option.some_ne_none _
  | cons first scanners induction =>
      rcases List.forall_mem_cons.mp total with ⟨firstTotal, othersTotal⟩
      by_cases last : scanners = []
      · rw [last]
        exact firstTotal
      · intro input fails
        rw [sequence_cons last] at fails
        exact firstTotal input (andThen_eq_none fails (induction othersTotal))

/-- Where all that may follow is total, a sequence fails only with its first piece. -/
theorem sequence_cons_eq_none (total : ∀ scanner ∈ scanners, scanner.Total)
    (fails : sequence (first :: scanners) input = none) : first input = none := by
  by_cases last : scanners = []
  · rwa [last] at fails
  · rw [sequence_cons last] at fails
    exact andThen_eq_none fails (total_sequence total)

end Scanner

namespace Rule

variable {input : Text}

open Scanner in
theorem startsEscape_of_escapeText {length : Nat} (scanned : escapeText input = some length) :
    StartsEscape input := by
  rcases exists_of_literal_andThen scanned with ⟨code, _, rfl, behind⟩
  rcases Option.or_eq_some_iff.mp behind with single | ⟨_, longer⟩
  · rcases exists_of_one single with ⟨character, rest, rfl, known, _⟩
    exact ⟨_, .single (List.contains_iff_mem.mp known), rest, rfl⟩
  · rcases Option.or_eq_some_iff.mp longer with byte | ⟨_, codePoint⟩
    · rcases exists_of_literal_andThen byte with ⟨digits, _, rfl, isByte⟩
      rcases andThen_eq_some_iff.mp isByte with ⟨_, _, isFirst, isSecond, _⟩
      rcases exists_of_one isFirst with ⟨first, others, rfl, high, rfl⟩
      rcases exists_of_one isSecond with ⟨second, rest, isRest, low, _⟩
      cases isRest
      exact ⟨_, .byte high low, rest, rfl⟩
    · rcases exists_of_literal_andThen codePoint with ⟨_, _, rfl, isCode⟩
      rcases andThen_eq_some_iff.mp isCode with ⟨_, _, areDigits, isClosed, _⟩
      rcases exists_of_run1 areDigits with ⟨digits, behind, rfl, isRun, rfl⟩
      rw [List.drop_left] at isClosed
      rcases literal_eq_some_iff.mp isClosed with ⟨⟨rest, rfl⟩, _⟩
      refine ⟨_, .codePoint isRun.nonempty isRun.within, rest, ?_⟩
      simp

open Scanner in
theorem escapeText_ne_none (starts : StartsEscape input) : escapeText input ≠ none := by
  rcases starts with ⟨escape, isEscape, rest, rfl⟩
  cases isEscape with
  | @single character known =>
      refine @literal_andThen_ne_none _ _ ['\\'] (orElse_ne_none_iff.mpr (.inl ?_))
      rw [ne_eq, one_eq_none_iff, Bool.not_eq_false]
      exact List.contains_iff_mem.mpr known
  | @byte first second high low =>
      refine @literal_andThen_ne_none _ _ ['\\'] (orElse_ne_none_iff.mpr (.inr ?_))
      refine orElse_ne_none_iff.mpr (.inl ?_)
      apply @literal_andThen_ne_none _ (first :: second :: rest) ['x']
      simp [Scanner.sequence, andThen, one, high, low]
  | @codePoint digits some hex =>
      have isRun : IsRun isHexDigit digits ('\x7d' :: rest) := isRun_cons some hex (by decide)
      have shape : digits ++ ['\x7d'] ++ rest = digits ++ '\x7d' :: rest := by
        simp
      refine @literal_andThen_ne_none _ _ ['\\'] (orElse_ne_none_iff.mpr (.inr ?_))
      refine orElse_ne_none_iff.mpr (.inr ?_)
      apply @literal_andThen_ne_none _ (digits ++ ['\x7d'] ++ rest) ['u', '\x7b']
      rw [shape]
      simp [Scanner.sequence, andThen, run1_of_isRun isRun, literal]

theorem escapeText_eq_none_iff : escapeText input = none ↔ ¬ StartsEscape input := by
  constructor
  · exact fun nothing starts => escapeText_ne_none starts nothing
  · intro noEscape
    apply Option.eq_none_iff_forall_ne_some.mpr
    exact fun length scanned => noEscape (startsEscape_of_escapeText scanned)

/-! ## Characters that are always recognised -/

/-- The characters that some rule recognises outside of strings, whatever stands around them. -/
def isTaken (character : Char) : Bool :=
  isBlank character || character == '"' || isAsciiDigit character || isUpper character ||
    isNameStart character || "+-*/%<>=!&|^.@?#$~".toList.contains character ||
    "(),;[]\x7b\x7d:".toList.contains character

variable {previous : Option Char} {character : Char} {rest : Text}

open Scanner in
theorem isTaken_eq_false
    (nothing : ∀ rule ∈ root, rule.scan previous (character :: rest) = none) :
    isTaken character = false := by
  have fails (kind : TokenKind) (scanner : Scanner) (isRule : plain kind scanner ∈ root) :
      scanner (character :: rest) = none :=
    nothing _ isRule
  have blank : isBlank character = false :=
    run1_eq_none_iff.mp (fails .text (run1 isBlank) (by simp [root]))
  have quote : (character == '"') = false := by
    apply beq_eq_false_iff_ne.mpr
    rintro rfl
    have isRule : { inString .string (.sequence [.optional (.literal ['b']), .literal ['"']]) with
        next := .string } ∈ root := by simp [root]
    exact Option.some_ne_none _ (nothing _ isRule)
  have digit : isAsciiDigit character = false := by
    have noDigits := sequence_cons_eq_none (by simp)
      (fails .integerNumber integerNumberText (by simp [root]))
    exact one_eq_none_iff.mp (sequence_cons_eq_none (by simp) noDigits)
  have upper : isUpper character = false := by
    have noName := fails .typeName upperName (by simp [root])
    exact one_eq_none_iff.mp (sequence_cons_eq_none (by simp) noName)
  have nameStart : isNameStart character = false := by
    have noName := fails .name lowerName (by simp [root])
    exact one_eq_none_iff.mp (sequence_cons_eq_none (by simp) noName)
  have operator : "+-*/%<>=!&|^.@?#$~".toList.contains character = false :=
    one_eq_none_iff.mp (fails .operator (.one fun character =>
      "+-*/%<>=!&|^.@?#$~".toList.contains character) (by simp [root]))
  have punctuation : "(),;[]\x7b\x7d:".toList.contains character = false :=
    one_eq_none_iff.mp (fails .punctuation (.one fun character =>
      "(),;[]\x7b\x7d:".toList.contains character) (by simp [root]))
  simp only [isTaken, blank, quote, digit, upper, nameStart, operator, punctuation, Bool.or_self]

theorem isStray_of_isTaken_eq_false (notTaken : isTaken character = false) :
    IsStray character := by
  rcases Nat.lt_or_ge character.toNat 0x80 with early | beyond
  · -- There are few enough of these to look at each.
    have all : ∀ code < 0x80,
        isTaken (Char.ofNat code) = true ∨ IsStray (Char.ofNat code) := by
      decide +kernel
    have own := all character.toNat early
    rw [Char.ofNat_toNat, notTaken] at own
    exact own.resolve_left Bool.false_ne_true
  · have blank : isBlank character = false := by
      simp only [isTaken, Bool.or_eq_false_iff] at notTaken
      exact notTaken.1.1.1.1.1.1
    exact .inr ⟨blank, .inr (.inr beyond)⟩

open Scanner in
/-- Inside a string everything is recognised but a backslash that starts no escape. -/
theorem string_eq_none_iff :
    (∀ rule ∈ string, rule.scan previous (character :: rest) = none) ↔
      character = '\\' ∧ ¬ StartsEscape (character :: rest) := by
  have rules : (∀ rule ∈ string, rule.scan previous (character :: rest) = none) ↔
      escapeText (character :: rest) = none ∧
      run1 (fun other => other != '"' && other != '\\') (character :: rest) = none ∧
      literal ['"'] (character :: rest) = none := by
    simp [string, inString, plain]
  rw [rules, run1_eq_none_iff, escapeText_eq_none_iff]
  constructor
  · rintro ⟨noEscape, notInside, notClosing⟩
    refine ⟨?_, noEscape⟩
    have isQuote : character ≠ '"' := by
      rintro rfl
      exact Option.some_ne_none _ notClosing
    simpa [isQuote] using notInside
  · rintro ⟨rfl, noEscape⟩
    exact ⟨noEscape, rfl, rfl⟩

end Rule

namespace LexPlace

variable {place next last : LexPlace} {token : Token} {before after tokens : List Token}
  {character : Char} {rest : Text}

/-! ## Places that are not recognised -/

theorem Unrecognised.isStray (nothing : place.Unrecognised) (outside : place.state = .root)
    (here : place.rest = character :: rest) : IsStray character := by
  apply Rule.isStray_of_isTaken_eq_false
  apply @Rule.isTaken_eq_false place.previous character rest
  rw [Unrecognised, outside, here] at nothing
  exact nothing

theorem unrecognised_iff_of_string (inside : place.state = .string)
    (here : place.rest = character :: rest) :
    place.Unrecognised ↔ character = '\\' ∧ ¬ StartsEscape place.rest := by
  rw [Unrecognised, inside, here]
  exact Rule.string_eq_none_iff

/-- Where no rule recognises anything, a step makes an error of one character. -/
theorem Step.of_unrecognised (step : place.Step token next) (nothing : place.Unrecognised) :
    ∃ character rest, token = ⟨.error, [character]⟩ ∧ place.rest = character :: rest := by
  cases step with
  | recognised first =>
      have isRule := first.mem
      rcases first with ⟨_, _, _, scanned, _⟩
      exact absurd ((nothing _ isRule).symm.trans scanned) (Option.some_ne_none _).symm
  | newline nothing here => exact absurd here nothing.head_ne_newline
  | @error character rest nothing here => exact ⟨character, rest, rfl, here⟩

/-- No rule makes errors. -/
theorem Step.unrecognised (step : place.Step token next) (isError : token.kind = .error) :
    place.Unrecognised := by
  cases step with
  | recognised first =>
      have kinds : ∀ state, ∀ rule ∈ Rule.ofState state, rule.kind ≠ .error := by
        intro state
        cases state <;> decide
      exact absurd isError (kinds place.state _ first.mem)
  | newline nothing | error nothing => exact nothing

/-- An error is a backslash that starts no escape, or a stray character outside of strings. -/
theorem Step.error_place (step : place.Step token next) (isError : token.kind = .error) :
    ∃ character rest, token.text = [character] ∧ place.rest = character :: rest ∧
      (place.state = .string ∧ character = '\\' ∧ ¬ StartsEscape place.rest ∨
        place.state = .root ∧ IsStray character) := by
  have nothing := step.unrecognised isError
  rcases step.of_unrecognised nothing with ⟨character, rest, rfl, here⟩
  refine ⟨character, rest, rfl, here, ?_⟩
  cases state : place.state with
  | root => exact .inr ⟨rfl, nothing.isStray state here⟩
  | string => exact .inl ⟨rfl, (unrecognised_iff_of_string state here).mp nothing⟩

theorem Step.eq_error (step : place.Step token next) (inside : place.state = .string)
    (here : place.rest.head? = some '\\') (noEscape : ¬ StartsEscape place.rest) :
    token = ⟨.error, ['\\']⟩ := by
  rcases List.head?_eq_some_iff.mp here with ⟨rest, isRest⟩
  have nothing := (unrecognised_iff_of_string inside isRest).mpr ⟨rfl, noEscape⟩
  rcases step.of_unrecognised nothing with ⟨character, others, rfl, same⟩
  rw [List.head_eq_of_cons_eq (isRest.symm.trans same)]

/-! ## Places on the way -/

/-- Steps from one place to another, with the tokens that they make. -/
inductive Leads : LexPlace → List Token → LexPlace → Prop
  | here {place : LexPlace} : Leads place [] place
  | step {place next last : LexPlace} {token : Token} {tokens : List Token}
      (first : place.Step token next) (others : Leads next tokens last) :
      Leads place (token :: tokens) last

/-- A run comes to a place where a step makes the given one of its tokens. -/
theorem Run.exists_step (run : place.Run (before ++ token :: after)) :
    ∃ last next, place.Leads before last ∧ last.Step token next := by
  induction before generalizing place with
  | nil =>
      cases run with
      | step first others => exact ⟨_, _, .here, first⟩
  | cons earlier before induction =>
      cases run with
      | step first others =>
          rcases induction others with ⟨last, next, leads, step⟩
          exact ⟨last, next, .step first leads, step⟩

end LexPlace

/-- Every error of the lexer is a single character. At the place that the tokens before it lead to,
the error is a backslash in a string that starts no escape, and every such backslash is one, or it
is a stray character outside of strings. Of the printable ASCII characters only a quote, a
backslash and a backquote are ever errors. -/
theorem dumpTokens_errors (text : Text) :
    (∀ (before : List Token) (token : Token) (after : List Token),
      dumpTokens text = before ++ token :: after →
      ∃ place next, (LexPlace.start (prepareText text)).Leads before place ∧
        place.Step token next ∧
        (token.kind = .error → ∃ character rest,
          token.text = [character] ∧ place.rest = character :: rest ∧
            (place.state = .string ∧ character = '\\' ∧ ¬ StartsEscape place.rest ∨
              place.state = .root ∧ IsStray character)) ∧
        (place.state = .string → place.rest.head? = some '\\' → ¬ StartsEscape place.rest →
          token = ⟨.error, ['\\']⟩)) ∧
    ∀ token ∈ dumpTokens text, token.kind = .error → ∀ character ∈ token.text,
      0x20 ≤ character.toNat → character.toNat < 0x7f → character ∈ ['\'', '\\', '`'] := by
  have comesTo {before after : List Token} {token : Token}
      (parts : dumpTokens text = before ++ token :: after) :
      ∃ place next, (LexPlace.start (prepareText text)).Leads before place ∧
        place.Step token next := by
    apply LexPlace.Run.exists_step
    rw [← parts]
    exact LexPlace.run_iff.mpr rfl
  constructor
  · intro before token after parts
    rcases comesTo parts with ⟨place, next, leads, step⟩
    exact ⟨place, next, leads, step, step.error_place, step.eq_error⟩
  · intro token member isError character isText visible ascii
    rcases List.append_of_mem member with ⟨before, after, parts⟩
    rcases comesTo parts with ⟨place, next, leads, step⟩
    rcases step.error_place isError with ⟨_, rest, single, here, inside | outside⟩
    · rw [single, List.mem_singleton, inside.2.1] at isText
      rw [isText]
      decide
    · rw [single, List.mem_singleton] at isText
      exact (isText ▸ outside.2).mem_of_printable visible ascii

/-- A backquote behind a string, where the string holds a backslash that starts no escape. -/
def looseQuote : Text :=
  "\"\\q\" `".toList

theorem dumpTokens_errors_looseQuote :
    (∃ before place, dumpTokens looseQuote = before ++ [⟨.error, ['`']⟩] ∧
      ⟨.error, ['\\']⟩ ∈ before ∧ (LexPlace.start (prepareText looseQuote)).Leads before place ∧
      place.state = .root ∧ IsStray '`') ∧
    ⟨.error, ['q']⟩ ∉ dumpTokens looseQuote := by
  rcases dumpTokens_errors looseQuote with ⟨errors, printable⟩
  have parts : dumpTokens looseQuote =
      [⟨.string, ['"']⟩, ⟨.error, ['\\']⟩, ⟨.string, ['q']⟩, ⟨.string, ['"']⟩, ⟨.text, [' ']⟩] ++
        [⟨.error, ['`']⟩] := by
    decide +kernel
  constructor
  · rcases errors _ _ _ parts with ⟨place, next, leads, _, isError, _⟩
    rcases isError rfl with ⟨character, rest, single, _, ⟨_, rfl, _⟩ | ⟨outside, stray⟩⟩
    · exact absurd single (by decide)
    · cases single
      exact ⟨_, place, parts, by decide, leads, outside, stray⟩
  · intro member
    have known := printable _ member rfl 'q' List.mem_cons_self (by decide) (by decide)
    exact absurd known (by decide)

end DumpLens
