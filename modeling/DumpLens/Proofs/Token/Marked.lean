import DumpLens.Proofs.Span.Successive
import DumpLens.Proofs.Token.Lexeme
import DumpLens.Proofs.Token.Lossless

/-! The markers of a dump that are annotations. In bare text the lexer marks the successive
matches of the pattern of annotations, and so the first of them on a line is what is read of
the line. -/

namespace DumpLens

namespace Token

/-! ## Markers -/

/-- A marker that is an annotation, and no syntax context. -/
def isNote (token : Token) : Bool :=
  token.kind == .marker && decide (".rs:".toList <:+: token.text)

/-- The texts of the annotations among tokens. -/
def notes (tokens : List Token) : List Text :=
  (tokens.filter isNote).map Token.text

/-- The tokens that start on each line of the text that they make up. -/
def byLine : List Token → List (List Token)
  | [] => [[]]
  | token :: rest =>
    (List.replicate (token.text.count '\n') [] ++ byLine rest).modifyHead (token :: ·)

variable {token : Token} {tokens : List Token}

theorem notes_cons_of_note (isNote : token.isNote = true) :
    notes (token :: tokens) = token.text :: notes tokens := by
  rw [notes, List.filter_cons_of_pos isNote, List.map_cons, notes]

theorem notes_cons_of_other (other : token.isNote = false) :
    notes (token :: tokens) = notes tokens := by
  rw [notes, List.filter_cons_of_neg (by simp [other]), notes]

theorem byLine_ne_nil (tokens : List Token) : byLine tokens ≠ [] := by
  induction tokens with
  | nil => exact List.cons_ne_nil _ _
  | cons token tokens induction => simp [byLine, List.modifyHead_eq_nil_iff, induction]

/-- Every token is on one line. -/
theorem flatten_byLine (tokens : List Token) : (byLine tokens).flatten = tokens := by
  induction tokens with
  | nil => rfl
  | cons token tokens induction =>
      have same :
          (List.replicate (token.text.count '\n') [] ++ byLine tokens).flatten = tokens := by
        rw [List.flatten_append, List.flatten_replicate_nil, induction, List.nil_append]
      rw [byLine]
      cases lines : List.replicate (token.text.count '\n') [] ++ byLine tokens with
      | nil => exact absurd (List.append_eq_nil_iff.mp lines).2 (byLine_ne_nil tokens)
      | cons line others =>
          rw [lines] at same
          exact congrArg (token :: ·) same

theorem head?_notes (tokens : List Token) :
    (notes tokens).head? = (tokens.find? isNote).map Token.text := by
  rw [notes, List.head?_map, List.head?_filter]

/-- A token of one kind of characters is no annotation. -/
theorem isNote_of_uniform (uniform : Uniform token.text) : token.isNote = false := by
  rw [isNote, Bool.and_eq_false_iff]
  refine .inr (decide_eq_false ?_)
  intro isInfix
  have hasPoint : '.' ∈ token.text := isInfix.subset (by decide)
  have hasColon : ':' ∈ token.text := isInfix.subset (by decide)
  rcases uniform with names | separators
  · exact absurd (names ':' hasColon) (by decide)
  · exact absurd (separators '.' hasPoint) (by decide)

end Token

/-! ## Tokens between and on matches -/

/-- Tokens of a text that are matches of the pattern of annotations, or others in which no
match starts. -/
inductive Marked : Text → List Token → Prop
  | nil : Marked [] []
  | note {input : Text} {found : PatternMatch} {tokens : List Token}
      (preferred : Pattern.note.at? input = some found) (others : Marked found.rest tokens) :
      Marked input (⟨.marker, found.taken⟩ :: tokens)
  | other {token : Token} {rest : Text} {tokens : List Token} (isOther : token.isNote = false)
      (nowhere : Pattern.note.StartsNowhere token.text rest) (others : Marked rest tokens) :
      Marked (token.text ++ rest) (token :: tokens)

namespace Marked

variable {input : Text} {tokens : List Token} {found : PatternMatch}

theorem isNote_of_at? (preferred : Pattern.note.at? input = some found) :
    Token.isNote ⟨.marker, found.taken⟩ = true := by
  have isInfix := Pattern.extension_infix_taken (Pattern.mem_ways_of_at? preferred)
  exact decide_eq_true isInfix

/-- The annotations are the successive matches. -/
theorem notes_eq (marked : Marked input tokens) :
    Token.notes tokens = Pattern.note.textsIn input := by
  induction marked with
  | nil => exact (Pattern.textsIn_nil (Pattern.at?_note_eq_none_iff.mpr rfl)).symm
  | note preferred others induction =>
      rw [Token.notes_cons_of_note (isNote_of_at? preferred), induction,
        Pattern.textsIn_of_at? Pattern.consumes_note preferred]
  | other isOther nowhere others induction =>
      rw [Token.notes_cons_of_other isOther, induction,
        Pattern.textsIn_append Pattern.consumes_note nowhere]

/-- On each line, the annotations are the successive matches in the line. -/
theorem notes_byLine (marked : Marked input tokens) :
    (Token.byLine tokens).map Token.notes = input.lines.map Pattern.note.textsIn := by
  induction marked with
  | nil =>
      have nothing := Pattern.textsIn_nil (Pattern.at?_note_eq_none_iff.mpr rfl)
      exact congrArg ([·]) nothing.symm
  | @note input found tokens preferred others induction =>
      have whole : '\n' ∉ found.taken :=
        Pattern.not_mem_taken Pattern.avoids_note (Pattern.mem_ways_of_at? preferred)
      rw [Pattern.textsIn_lines_of_at? Pattern.consumes_note Pattern.avoids_note preferred,
        ← induction, Token.byLine, List.count_eq_zero_of_not_mem whole, List.replicate_zero,
        List.nil_append]
      cases Token.byLine tokens with
      | nil => rfl
      | cons line lines =>
          rw [List.modifyHead_cons, List.map_cons, List.map_cons, List.modifyHead_cons,
            Token.notes_cons_of_note (isNote_of_at? preferred)]
  | @other token rest tokens isOther nowhere others induction =>
      have empty : (List.replicate (token.text.count '\n') []).map Token.notes =
          List.replicate (token.text.count '\n') [] := List.map_replicate
      rw [Pattern.textsIn_lines_append Pattern.consumes_note Pattern.avoids_note nowhere,
        ← induction, ← empty, ← List.map_append, Token.byLine]
      cases List.replicate (token.text.count '\n') [] ++ Token.byLine tokens with
      | nil => rfl
      | cons line lines =>
          rw [List.modifyHead_cons, List.map_cons, List.map_cons,
            Token.notes_cons_of_other isOther]

end Marked

/-! ## Lexing -/

theorem Uniform.startsNowhere {lexeme rest : Text} (uniform : Uniform lexeme)
    (nothing : SpanNote.at? (lexeme ++ rest) = none) :
    Pattern.note.StartsNowhere lexeme rest := by
  rcases uniform with names | separators
  · exact Pattern.startsNowhere_of_names names nothing
  · exact Pattern.startsNowhere_of_separators rest separators

theorem at?_note_of_read {input behind : Text} {note : SpanNote}
    (read : SpanNote.at? input = some (note, behind)) :
    Pattern.note.at? input = some (Pattern.ofNote note behind) := by
  rw [Pattern.at?_note, read]
  rfl

/-- An annotation is a whole lexeme. -/
theorem lexeme_of_read {first : Char} {rest behind : Text} {note : SpanNote}
    (read : SpanNote.at? (first :: rest) = some (note, behind)) :
    first :: rest.take (note.text.length - 1) = note.text ∧
      rest.drop (note.text.length - 1) = behind := by
  have isWay := Pattern.mem_ways_of_at? (at?_note_of_read read)
  have parts : note.text ++ behind = first :: rest := Pattern.taken_append_rest isWay
  have nonempty : note.text ≠ [] := Pattern.consumes_note _ _ isWay
  rcases List.exists_cons_of_ne_nil nonempty with ⟨character, others, isText⟩
  rw [isText] at parts ⊢
  rcases List.cons.inj parts with ⟨rfl, rfl⟩
  simp

/-- Outside of strings, the next token is a match or one in which no match starts. -/
theorem marked_lexFrom {state : LexState} {previous : Option Char} {input : Text}
    (isRoot : state = .root) (bare : input.Bare) :
    Marked input (lexFrom state previous input) := by
  fun_induction lexFrom state previous input with
  | case1 => exact .nil
  | case2 state previous first rest kind length next isNext lexeme induction =>
      subst isRoot
      have parts : lexeme ++ rest.drop (length - 1) = first :: rest := by simp [lexeme]
      have bareRest : Text.Bare (rest.drop (length - 1)) := bare.of_suffix ⟨lexeme, parts⟩
      cases read : SpanNote.at? (first :: rest) with
      | none =>
          rcases uniform_nextToken previous bare read with ⟨nextRoot, uniform⟩
          rw [isNext] at nextRoot uniform
          have nowhere := Uniform.startsNowhere uniform (parts.symm ▸ read)
          have marked := @Marked.other ⟨kind, lexeme⟩ _ _ (Token.isNote_of_uniform uniform)
            nowhere (induction nextRoot bareRest)
          rw [parts] at marked
          exact marked
      | some result =>
          rcases result with ⟨note, behind⟩
          rw [nextToken_of_note read] at isNext
          cases isNext
          rcases lexeme_of_read read with ⟨isLexeme, isBehind⟩
          have others := induction rfl bareRest
          simp only [lexeme, isLexeme, isBehind] at others ⊢
          exact .note (at?_note_of_read read) others

theorem prepareText_of_bare {text : Text} (bare : text.Bare)
    (unmarked : text.head? ≠ some '\ufeff') : prepareText text = text := by
  have plain : '\r' ∉ text := by
    intro isIn
    exact bare ['\r'] (by decide) ((List.singleton_infix_iff ..).mpr isIn)
  rw [prepareText_of_not_mem plain]
  unfold dropMark
  split
  · exact absurd rfl unmarked
  · rfl

/-- The annotations that the lexer marks in bare text without a byte order mark are the
successive leftmost matches of the pattern of annotations, which do not overlap. So the first
one on a line is the text that the span and the file of the line are read from, and a line
without one has neither. -/
theorem notes_dumpTokens {text : Text} (bare : text.Bare)
    (unmarked : text.head? ≠ some '\ufeff') :
    Token.notes (dumpTokens text) =
      (Pattern.note.searchAll text).map PatternMatch.taken ∧
    (Token.byLine (dumpTokens text)).length = text.lines.length ∧
    (Token.byLine (dumpTokens text)).flatten = dumpTokens text ∧
    ∀ (number : Nat) (line : Text) (tokens : List Token), text.lines[number]? = some line →
      (Token.byLine (dumpTokens text))[number]? = some tokens →
      (∀ token, tokens.find? Token.isNote = some token →
        (Pattern.note.search line).map PatternMatch.taken = some token.text ∧
          parseSpan line = parseSpan token.text ∧ spanFile line = spanFile token.text ∧
          (spanFile line).isSome) ∧
      (tokens.find? Token.isNote = none →
        Pattern.note.search line = none ∧ parseSpan line = .ok none ∧ spanFile line = none) := by
  have marked : Marked text (dumpTokens text) := by
    rw [dumpTokens, prepareText_of_bare bare unmarked]
    exact marked_lexFrom rfl bare
  have onLines := marked.notes_byLine
  refine ⟨marked.notes_eq, ?_, Token.flatten_byLine _, ?_⟩
  · have lengths := congrArg List.length onLines
    rw [List.length_map, List.length_map] at lengths
    exact lengths
  · intro number line tokens isLine areTokens
    have onLine := congrArg (·[number]?) onLines
    simp only [List.getElem?_map, isLine, areTokens, Option.map_some, Option.some.injEq] at onLine
    have first := congrArg List.head? onLine
    rw [Token.head?_notes, Pattern.head?_textsIn] at first
    constructor
    · intro token isFirst
      rw [isFirst, Option.map_some] at first
      rcases Option.map_eq_some_iff.mp first.symm with ⟨found, searched, isText⟩
      exact ⟨first.symm, isText ▸ parseSpan_taken searched⟩
    · intro noNote
      rw [noNote, Option.map_none] at first
      have nothing := Option.map_eq_none_iff.mp first.symm
      exact ⟨nothing, parseSpan_of_search_none nothing⟩

/-- Annotations against colons, digits and each other, on line zero and with a digit of another
script, and files without a stem or without a position. -/
def gluedNotes : Text :=
  Text.unlines (["::a.rs:1:2:b.rs:3:4: 5:6c.rs:7:8(#0)", "7.rs:0:9: 1d.rs:1:1", ".rs:1:2 e.rs::3",
    "0x1f.rs:٣:4:.rs:5:6"].map String.toList)

theorem notes_dumpTokens_gluedNotes :
    Token.notes (dumpTokens gluedNotes) = ["a.rs:1:2", "b.rs:3:4: 5:6", "c.rs:7:8", "7.rs:0:9",
      "1d.rs:1:1", "0x1f.rs:٣:4"].map String.toList ∧
    (∀ line, gluedNotes.lines[1]? = some line → spanFile line = some "7.rs".toList) ∧
    ∀ line, gluedNotes.lines[2]? = some line → spanFile line = none := by
  have bare : gluedNotes.Bare := by decide +kernel
  rcases notes_dumpTokens bare (by decide) with ⟨notes, _, _, onLines⟩
  refine ⟨notes.trans (by decide +kernel), ?_, ?_⟩
  · intro line isLine
    have first : (Token.byLine (dumpTokens gluedNotes))[1]?.map (List.find? Token.isNote) =
        some (some ⟨.marker, "7.rs:0:9".toList⟩) := by decide +kernel
    rcases Option.map_eq_some_iff.mp first with ⟨tokens, areTokens, isFirst⟩
    rw [((onLines 1 line tokens isLine areTokens).1 _ isFirst).2.2.1]
    decide +kernel
  · intro line isLine
    have first : (Token.byLine (dumpTokens gluedNotes))[2]?.map (List.find? Token.isNote) =
        some none := by decide +kernel
    rcases Option.map_eq_some_iff.mp first with ⟨tokens, areTokens, noNote⟩
    exact ((onLines 2 line tokens isLine areTokens).2 noNote).2.2

end DumpLens
