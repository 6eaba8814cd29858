import DumpLens.Proofs.Span.Successive
import DumpLens.Proofs.Token.Lexeme

/-! What rules recognise. Every rule takes at least one character and no more than there are,
and at a newline some rule of each state applies. -/

namespace DumpLens

/-! ## Scanners -/

namespace Scanner

/-- What a scanner recognises stands in the input. -/
def Fits (scanner : Scanner) : Prop :=
  ∀ input length, scanner input = some length → length ≤ input.length

/-- What a scanner recognises stands in the input and is not empty. -/
def Advances (scanner : Scanner) : Prop :=
  ∀ input length, scanner input = some length → 0 < length ∧ length ≤ input.length

variable {member : Char → Bool} {first second scanner : Scanner} {scanners : List Scanner}
  {word mark : Text}

theorem Advances.fits (advances : scanner.Advances) : scanner.Fits := by
  intro input length scanned
  exact (advances input length scanned).2

theorem advances_one : (one member).Advances := by
  intro input length scanned
  cases input with
  | nil => cases scanned
  | cons character rest =>
      by_cases isMember : member character = true
      · cases (if_pos isMember).symm.trans scanned
        exact ⟨Nat.one_pos, Nat.succ_le_succ (Nat.zero_le rest.length)⟩
      · cases (if_neg isMember).symm.trans scanned

@[simp] theorem fits_one : (one member).Fits :=
  advances_one.fits

@[simp] theorem fits_run : (run member).Fits := by
  intro input length scanned
  cases scanned
  exact (List.takeWhile_prefix member).length_le

theorem advances_run1 : (run1 member).Advances := by
  intro input length scanned
  refine ⟨?_, fits_run input length (run_of_run1 scanned)⟩
  unfold run1 at scanned
  split at scanned
  · cases scanned
  · cases scanned
    exact Nat.succ_pos _

@[simp] theorem fits_run1 : (run1 member).Fits :=
  advances_run1.fits

@[simp] theorem fits_literal : (literal word).Fits := by
  intro input length scanned
  rcases literal_eq_some_iff.mp scanned with ⟨isPrefix, rfl⟩
  exact isPrefix.length_le

theorem advances_literal (nonempty : word ≠ []) : (literal word).Advances := by
  intro input length scanned
  refine ⟨?_, fits_literal input length scanned⟩
  rw [← (literal_eq_some_iff.mp scanned).2]
  exact List.length_pos_iff.mpr nonempty

@[simp] theorem fits_literals {words : List Text} : (literals words).Fits := by
  intro input length scanned
  rcases List.exists_of_findSome?_eq_some scanned with ⟨word, _, isLiteral⟩
  exact fits_literal input length isLiteral

theorem advances_literals {words : List Text} (nonempty : [] ∉ words) :
    (literals words).Advances := by
  intro input length scanned
  rcases List.exists_of_findSome?_eq_some scanned with ⟨word, isWord, isLiteral⟩
  exact advances_literal (fun empty => nonempty (empty ▸ isWord)) input length isLiteral

@[simp] theorem fits_optional (fits : scanner.Fits) : (optional scanner).Fits := by
  intro input length scanned
  cases here : scanner input with
  | none =>
      simp only [optional, here, Option.getD_none, Option.some.injEq] at scanned
      exact scanned ▸ Nat.zero_le _
  | some found =>
      simp only [optional, here, Option.getD_some, Option.some.injEq] at scanned
      exact scanned ▸ fits input found here

theorem fits_andThen (firstFits : first.Fits) (secondFits : second.Fits) :
    (first.andThen second).Fits := by
  intro input length scanned
  rcases andThen_eq_some_iff.mp scanned with ⟨front, back, isFront, isBack, rfl⟩
  have inside := firstFits input front isFront
  have behind := secondFits _ back isBack
  rw [List.length_drop] at behind
  omega

@[simp] theorem fits_sequence (fit : ∀ scanner ∈ scanners, scanner.Fits) :
    (sequence scanners).Fits := by
  induction scanners with
  | nil =>
      intro input length scanned
      cases scanned
      exact Nat.zero_le _
  | cons first scanners induction =>
      rcases List.forall_mem_cons.mp fit with ⟨firstFits, othersFit⟩
      by_cases last : scanners = []
      · rw [last]
        exact firstFits
      · rw [sequence_cons last]
        exact fits_andThen firstFits (induction othersFit)

/-- One piece that is not empty is enough. -/
theorem advances_sequence (fit : ∀ scanner ∈ scanners, scanner.Fits)
    (some : ∃ scanner ∈ scanners, scanner.Advances) : (sequence scanners).Advances := by
  intro input length scanned
  refine ⟨?_, fits_sequence fit input length scanned⟩
  induction scanners generalizing input length with
  | nil =>
      rcases some with ⟨_, impossible, _⟩
      cases impossible
  | cons first scanners induction =>
      rcases some with ⟨scanner, isIn, advances⟩
      by_cases last : scanners = []
      · rw [last] at scanned isIn
        cases List.mem_singleton.mp isIn
        exact (advances input length scanned).1
      · rw [sequence_cons last] at scanned
        rcases andThen_eq_some_iff.mp scanned with ⟨front, back, isFront, isBack, rfl⟩
        rcases List.mem_cons.mp isIn with rfl | later
        · exact Nat.add_pos_left (advances input front isFront).1 back
        · have inBack := induction (List.forall_mem_cons.mp fit).2 ⟨scanner, later, advances⟩ _
            back isBack
          exact Nat.add_pos_right front inBack

@[simp] theorem fits_orElse (firstFits : first.Fits) (secondFits : second.Fits) :
    (first.orElse second).Fits := by
  intro input length scanned
  rcases Option.or_eq_some_iff.mp scanned with isFirst | ⟨_, isSecond⟩
  · exact firstFits input length isFirst
  · exact secondFits input length isSecond

theorem advances_followedBy {condition : Text → Bool} (advances : scanner.Advances) :
    (followedBy scanner condition).Advances := by
  intro input length scanned
  unfold followedBy at scanned
  split at scanned
  · rename_i found here
    split at scanned
    · cases scanned
      exact advances input length here
    · cases scanned
  · cases scanned

@[simp] theorem fits_through : (through mark).Fits := by
  intro input
  induction input with
  | nil =>
      intro length scanned
      unfold through at scanned
      split at scanned
      · cases scanned
        exact Nat.le_refl 0
      · cases scanned
  | cons character rest induction =>
      intro length scanned
      unfold through at scanned
      split at scanned
      · rename_i isPrefix
        cases scanned
        exact (List.isPrefixOf_iff_prefix.mp isPrefix).length_le
      · rcases Option.map_eq_some_iff.mp scanned with ⟨later, isLater, rfl⟩
        exact Nat.succ_le_succ (induction later isLater)

end Scanner

/-! ## Rules -/

namespace Rule

/-- A rule takes at least one character and no more than there are. -/
def Advances (rule : Rule) : Prop :=
  ∀ previous, (rule.scan previous).Advances

theorem advances_spanNote : spanNote.Advances := by
  intro input length scanned
  rcases Option.map_eq_some_iff.mp scanned with ⟨⟨note, rest⟩, read, rfl⟩
  have isWay : Pattern.ofNote note rest ∈ Pattern.note.ways input := by
    apply Pattern.mem_ways_of_at?
    rw [Pattern.at?_note, read]
    rfl
  have parts : note.text ++ rest = input := Pattern.taken_append_rest isWay
  have nonempty : note.text ≠ [] := Pattern.consumes_note _ _ isWay
  exact ⟨List.length_pos_iff.mpr nonempty, parts ▸ (List.prefix_append note.text rest).length_le⟩

theorem advances_word {kind : TokenKind} (accept : Text → Bool) : (word kind accept).Advances := by
  intro previous input length scanned
  simp only [word] at scanned
  split at scanned
  · cases scanned
  · split at scanned
    · cases scanned
    · rename_i isRun
      split at scanned
      · cases scanned
        exact ⟨Nat.succ_pos _, isRun ▸ (List.takeWhile_prefix isWord).length_le⟩
      · cases scanned

open Scanner in
theorem advances_digits : digits.Advances :=
  advances_sequence (by simp) ⟨_, List.mem_cons_self, advances_one⟩

open Scanner in
theorem advances_lowerName : lowerName.Advances :=
  advances_sequence (by simp) ⟨_, List.mem_cons_self, advances_one⟩

open Scanner in
theorem advances_upperName : upperName.Advances :=
  advances_sequence (by simp) ⟨_, List.mem_cons_self, advances_one⟩

open Scanner in
theorem fits_integerSuffix : integerSuffix.Fits :=
  fits_sequence (by simp)

open Scanner in
theorem fits_floatSuffix : floatSuffix.Fits :=
  fits_sequence (by simp)

open Scanner in
theorem advances_escapeText : escapeText.Advances := by
  refine advances_sequence (List.forall_mem_cons.mpr ⟨fits_literal, ?code⟩)
    ⟨_, List.mem_cons_self, advances_literal (by decide)⟩
  refine List.forall_mem_singleton.mpr (fits_orElse fits_one (fits_orElse ?hex ?unicode))
  · exact fits_sequence (by simp)
  · exact fits_sequence (by simp)

open Scanner in
theorem advances_root : ∀ rule ∈ root, rule.Advances := by
  have marked (mark : Text) {kind : TokenKind} {scanners : List Scanner} {next : LexState}
      (nonempty : mark ≠ []) (part : literal mark ∈ scanners)
      (fit : ∀ scanner ∈ scanners, scanner.Fits) :
      (Rule.mk kind (fun _ => sequence scanners) next).Advances :=
    fun _ => advances_sequence fit ⟨_, part, advances_literal nonempty⟩
  simp only [root, List.forall_mem_cons]
  refine ⟨fun _ => advances_run1, fun _ => advances_spanNote,
    marked ['(', '#'] (by decide) (by simp) (by simp),
    marked ['/', '/'] (by decide) (by simp) (by simp),
    marked ['/', '*'] (by decide) (by simp) (by simp),
    marked ['"'] (by decide) (by simp) (by simp),
    marked ['\''] (by decide) (by simp) (by simp),
    marked ['\''] (by decide) (by simp) (by simp),
    marked ['0', 'x'] (by decide) (by simp) (by simp [fits_integerSuffix]),
    marked ['.'] (by decide) (by simp) (by simp [advances_digits.fits, fits_floatSuffix]),
    fun _ => ?integer,
    advances_word _, advances_word _, advances_word _, advances_word _, advances_word _,
    advances_word _, advances_word _, advances_word _,
    marked ['#'] (by decide) (by simp) (by simp),
    marked ['!'] (by decide) (by simp) (by simp [advances_lowerName.fits]),
    fun _ => advances_upperName, fun _ => advances_followedBy advances_lowerName,
    fun _ => advances_followedBy advances_lowerName, fun _ => advances_lowerName,
    fun _ => advances_literals (by decide), fun _ => advances_one, fun _ => advances_one,
    List.forall_mem_nil _⟩
  exact advances_sequence (by simp [advances_digits.fits, fits_integerSuffix])
    ⟨_, List.mem_cons_self, advances_digits⟩

open Scanner in
theorem advances_string : ∀ rule ∈ string, rule.Advances := by
  simp only [string, List.forall_mem_cons]
  exact ⟨fun _ => advances_escapeText, fun _ => advances_run1,
    fun _ => advances_literal (List.cons_ne_nil _ _), List.forall_mem_nil _⟩

theorem advances_ofState : ∀ state, ∀ rule ∈ ofState state, rule.Advances
  | .root => advances_root
  | .string => advances_string

/-- A newline is a blank outside of strings, and a part of strings inside of them. -/
theorem exists_scan_newline (state : LexState) (previous : Option Char) (rest : Text) :
    ∃ rule ∈ ofState state, rule.scan previous ('\n' :: rest) ≠ none := by
  cases state with
  | root =>
      refine ⟨plain .text (.run1 isBlank), List.mem_cons_self, ?_⟩
      have isRun : ('\n' :: rest).takeWhile isBlank = '\n' :: rest.takeWhile isBlank :=
        List.takeWhile_cons_of_pos (by decide)
      simp [plain, Scanner.run1, isRun]
  | string =>
      refine ⟨_, List.mem_cons_of_mem _ List.mem_cons_self, ?_⟩
      simp [inString, Scanner.run1]

/-- Of the rules for strings only that of the closing quote leaves the string. -/
theorem eq_of_mem_string {rule : Rule} (isRule : rule ∈ string) (leaves : rule.next = .root) :
    rule = plain .string (.literal ['"']) := by
  simp only [string, List.mem_cons, List.not_mem_nil, or_false] at isRule
  rcases isRule with rfl | rfl | rfl
  · cases leaves
  · cases leaves
  · rfl

end Rule

end DumpLens
