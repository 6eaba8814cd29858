import DumpLens.Proofs.Token.Advancing
import DumpLens.Proofs.Token.Lossless
import Mathlib.Order.WellFounded

/-! Lexing step by step. A step takes what the first rule recognises, and would take nothing if
a rule recognised nothing. As every rule advances, each text has one run of steps, and its
tokens are those of the lexer. -/

namespace DumpLens

/-- A place that lexing has come to: its state, the character before, and what is left. -/
structure LexPlace where
  state : LexState
  previous : Option Char
  rest : Text
  deriving DecidableEq, Repr

namespace LexPlace

variable {place next : LexPlace} {token : Token} {tokens : List Token} {rule : Rule} {length : Nat}

/-! ## Steps and runs -/

/-- Where lexing a text starts. -/
def start (text : Text) : LexPlace :=
  ⟨.root, none, text⟩

/-- The place behind some characters, possibly none. -/
def behind (place : LexPlace) (length : Nat) (state : LexState) : LexPlace :=
  ⟨state, (place.rest.take length).getLast?.or place.previous, place.rest.drop length⟩

/-- No rule of the state recognises anything. -/
def Unrecognised (place : LexPlace) : Prop :=
  ∀ rule ∈ Rule.ofState place.state, rule.scan place.previous place.rest = none

/-- The first rule of the state that recognises anything, and the length of what it
recognises. -/
def FirstRule (place : LexPlace) (rule : Rule) (length : Nat) : Prop :=
  ∃ before after, Rule.ofState place.state = before ++ rule :: after ∧
    rule.scan place.previous place.rest = some length ∧
    ∀ earlier ∈ before, earlier.scan place.previous place.rest = none

/-- One step of lexing. Where no rule recognises anything, a newline is white space behind which
lexing is outside of strings, and another character is an error. -/
inductive Step : LexPlace → Token → LexPlace → Prop
  | recognised {place : LexPlace} {rule : Rule} {length : Nat}
      (first : place.FirstRule rule length) :
      Step place ⟨rule.kind, place.rest.take length⟩ (place.behind length rule.next)
  | newline {place : LexPlace} {rest : Text} (nothing : place.Unrecognised)
      (here : place.rest = '\n' :: rest) :
      Step place ⟨.whitespace, ['\n']⟩ (place.behind 1 .root)
  | error {place : LexPlace} {character : Char} {rest : Text} (nothing : place.Unrecognised)
      (here : place.rest = character :: rest) (other : character ≠ '\n') :
      Step place ⟨.error, [character]⟩ (place.behind 1 place.state)

/-- Steps up to the end of the text, where no rule recognises anything. -/
inductive Run : LexPlace → List Token → Prop
  | ended {place : LexPlace} (nothing : place.Unrecognised) (nothingLeft : place.rest = []) :
      Run place []
  | step {place next : LexPlace} {token : Token} {tokens : List Token}
      (first : place.Step token next) (others : Run next tokens) : Run place (token :: tokens)

/-! ## Single steps -/

theorem FirstRule.mem (first : place.FirstRule rule length) : rule ∈ Rule.ofState place.state := by
  rcases first with ⟨before, after, parts, _⟩
  rw [parts]
  exact List.mem_append_right before List.mem_cons_self

theorem FirstRule.advances (first : place.FirstRule rule length) :
    0 < length ∧ length ≤ place.rest.length := by
  have advances := Rule.advances_ofState place.state rule first.mem
  rcases first with ⟨_, _, _, scanned, _⟩
  exact advances place.previous place.rest length scanned

theorem exists_firstRule (recognised : ¬ place.Unrecognised) :
    ∃ rule length, place.FirstRule rule length := by
  cases found : (Rule.ofState place.state).findSome? (·.scan place.previous place.rest) with
  | none => exact absurd (List.findSome?_eq_none_iff.mp found) recognised
  | some length =>
      rcases List.findSome?_eq_some_iff.mp found with ⟨before, rule, after, parts, scanned, earlier⟩
      exact ⟨rule, length, before, after, parts, scanned, earlier⟩

/-- A newline is recognised in every state. -/
theorem Unrecognised.head_ne_newline {rest : Text} (nothing : place.Unrecognised) :
    place.rest ≠ '\n' :: rest := by
  intro here
  rcases Rule.exists_scan_newline place.state place.previous rest with ⟨rule, isRule, scans⟩
  exact scans (here ▸ nothing rule isRule)

/-- At the end of the text no rule recognises anything. -/
theorem unrecognised_of_nil (nothingLeft : place.rest = []) : place.Unrecognised := by
  intro rule isRule
  cases scanned : rule.scan place.previous place.rest with
  | none => rfl
  | some length =>
      have advances := Rule.advances_ofState place.state rule isRule _ _ _ scanned
      rw [nothingLeft, List.length_nil] at advances
      omega

theorem exists_step (more : place.rest ≠ []) : ∃ token next, place.Step token next := by
  by_cases nothing : place.Unrecognised
  · rcases List.exists_cons_of_ne_nil more with ⟨character, rest, here⟩
    have other : character ≠ '\n' := fun newline => nothing.head_ne_newline (newline ▸ here)
    exact ⟨_, _, .error nothing here other⟩
  · rcases exists_firstRule nothing with ⟨rule, length, first⟩
    exact ⟨_, _, .recognised first⟩

/-- A step takes at least one character off the front of what is left. -/
theorem Step.takes (step : place.Step token next) :
    token.text ≠ [] ∧ token.text ++ next.rest = place.rest := by
  cases step with
  | @recognised rule length first =>
      refine ⟨?_, List.take_append_drop length place.rest⟩
      rw [← List.length_pos_iff, List.length_take]
      have advances := first.advances
      omega
  | newline nothing here | error nothing here =>
      refine ⟨List.cons_ne_nil _ _, ?_⟩
      simp [behind, here]

theorem Step.length_lt (step : place.Step token next) : next.rest.length < place.rest.length := by
  rcases step.takes with ⟨nonempty, parts⟩
  have positive := List.length_pos_iff.mpr nonempty
  rw [← parts, List.length_append]
  omega

/-- No text can be lexed for ever. -/
theorem wellFounded_step :
    WellFounded fun next place : LexPlace => ∃ token, place.Step token next :=
  (InvImage.wf (fun place : LexPlace => place.rest.length) wellFounded_lt).mono
    fun _ _ ⟨_, step⟩ => step.length_lt

theorem Step.kind_ne_whitespace (step : place.Step token next) : token.kind ≠ .whitespace := by
  cases step with
  | recognised first =>
      have kinds : ∀ state, ∀ rule ∈ Rule.ofState state, rule.kind ≠ .whitespace := by
        intro state
        cases state <;> decide
      exact kinds place.state _ first.mem
  | newline nothing here => exact absurd here nothing.head_ne_newline
  | error => exact TokenKind.noConfusion

/-- Only a closing quote leaves a string. -/
theorem Step.leaves_string (step : place.Step token next) (inside : place.state = .string)
    (outside : next.state = .root) : token = ⟨.string, ['"']⟩ := by
  cases step with
  | @recognised rule length first =>
      have isRule : rule ∈ Rule.string := by
        have member := first.mem
        rwa [inside] at member
      rcases first with ⟨_, _, _, scanned, _⟩
      rw [Rule.eq_of_mem_string isRule outside] at scanned ⊢
      rcases Scanner.literal_eq_some_iff.mp scanned with ⟨⟨rest, isQuote⟩, rfl⟩
      rw [← isQuote]
      rfl
  | newline nothing here => exact absurd here nothing.head_ne_newline
  | error => exact absurd (inside.symm.trans outside) (by decide)

/-! ## Whole runs -/

theorem nextToken_of_firstRule (first : place.FirstRule rule length) :
    nextToken place.state place.previous place.rest = (rule.kind, length, rule.next) := by
  rcases first with ⟨before, after, parts, scanned, earlier⟩
  have nothingEarlier : before.findSome? (fun rule : Rule =>
      (rule.scan place.previous place.rest).map fun length => (rule.kind, length, rule.next)) =
      none := by
    apply List.findSome?_eq_none_iff.mpr
    intro rule member
    rw [earlier rule member, Option.map_none]
  simp [nextToken, parts, List.findSome?_append, nothingEarlier, scanned]

theorem nextToken_of_unrecognised {character : Char} {rest : Text}
    (nothing : place.Unrecognised) (here : place.rest = character :: rest)
    (other : character ≠ '\n') :
    nextToken place.state place.previous place.rest = (.error, 1, place.state) := by
  have unrecognised : (Rule.ofState place.state).findSome? (fun rule : Rule =>
      (rule.scan place.previous place.rest).map fun length => (rule.kind, length, rule.next)) =
      none := by
    apply List.findSome?_eq_none_iff.mpr
    intro rule member
    rw [nothing rule member, Option.map_none]
  simp only [nextToken, unrecognised]
  simp [here, other]

/-- The lexer makes the token of a step, and goes on at the place behind it. -/
theorem lexFrom_of_step (step : place.Step token next) :
    lexFrom place.state place.previous place.rest =
      token :: lexFrom next.state next.previous next.rest := by
  have cut {kind : TokenKind} {length : Nat} {state : LexState}
      (isNext : nextToken place.state place.previous place.rest = (kind, length, state))
      (positive : 0 < length) (more : place.rest ≠ []) :
      lexFrom place.state place.previous place.rest =
        ⟨kind, place.rest.take length⟩ :: lexFrom state (place.behind length state).previous
          (place.rest.drop length) := by
    rcases List.exists_cons_of_ne_nil more with ⟨first, rest, here⟩
    rcases Nat.exists_eq_add_of_lt positive with ⟨fewer, rfl⟩
    rw [here] at isNext ⊢
    rw [lexFrom]
    simp [isNext, behind, here, List.getLast?_cons]
  cases step with
  | @recognised rule length first =>
      have advances := first.advances
      refine cut (nextToken_of_firstRule first) advances.1 ?_
      exact List.ne_nil_of_length_pos (Nat.lt_of_lt_of_le advances.1 advances.2)
  | newline nothing here => exact absurd here nothing.head_ne_newline
  | error nothing here other =>
      have single := cut (nextToken_of_unrecognised nothing here other) Nat.one_pos
        (here ▸ List.cons_ne_nil _ _)
      rw [single, here]
      simp [behind, here]

theorem run_iff : place.Run tokens ↔ tokens = lexFrom place.state place.previous place.rest := by
  constructor
  · intro run
    induction run with
    | ended nothing nothingLeft => rw [nothingLeft, lexFrom]
    | step first others induction => rw [lexFrom_of_step first, induction]
  · rintro rfl
    induction place using wellFounded_step.induction with
    | h place induction =>
        by_cases nothingLeft : place.rest = []
        · rw [nothingLeft, lexFrom]
          exact .ended (unrecognised_of_nil nothingLeft) nothingLeft
        · rcases exists_step nothingLeft with ⟨token, next, step⟩
          rw [lexFrom_of_step step]
          exact .step step (induction next ⟨token, step⟩)

/-- What holds of the token of every step holds of all tokens of a run. -/
theorem Run.forall_mem {holds : Token → Prop} (run : place.Run tokens)
    (each : ∀ place token next, Step place token next → holds token) :
    ∀ token ∈ tokens, holds token := by
  induction run with
  | ended => exact List.forall_mem_nil _
  | step first others induction => exact List.forall_mem_cons.mpr ⟨each _ _ _ first, induction⟩

end LexPlace

/-- Every text has one run of the lexer, and none goes on for ever. Its tokens are not empty and
make up the prepared text. No step falls back on a newline, so no token is white space and a
string ends with its closing quote or with the text. -/
theorem dumpTokens_losesNothing (text : Text) :
    (∀ tokens, (LexPlace.start (prepareText text)).Run tokens ↔ tokens = dumpTokens text) ∧
    (WellFounded fun next place : LexPlace => ∃ token, place.Step token next) ∧
    (dumpTokens text).flatMap Token.text = (dropMark text).normalizeEndings ∧
    (∀ token ∈ dumpTokens text, token.text ≠ [] ∧ token.kind ≠ .whitespace) ∧
    (∀ (place : LexPlace) (rest : Text), place.Unrecognised → place.rest ≠ '\n' :: rest) ∧
    ∀ (place : LexPlace) (token : Token) (next : LexPlace), place.Step token next →
      place.state = .string → next.state = .root → token = ⟨.string, ['"']⟩ := by
  have run : (LexPlace.start (prepareText text)).Run (dumpTokens text) := LexPlace.run_iff.mpr rfl
  refine ⟨fun tokens => LexPlace.run_iff, LexPlace.wellFounded_step, ?_, ?_, ?_, ?_⟩
  · rw [← prepareText_eq]
    exact text_tokens .dump text
  · exact run.forall_mem fun _ _ _ step => ⟨step.takes.1, step.kind_ne_whitespace⟩
  · exact fun place rest nothing => nothing.head_ne_newline
  · exact fun place token next step => step.leaves_string

end DumpLens
