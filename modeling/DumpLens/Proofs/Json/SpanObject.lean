import DumpLens.Json.Reader
import DumpLens.Proofs.Span.Readable
import DumpLens.Render.Page

/-! Spans as objects. What is written for a span is read back as the same numbers under the
same names. -/

namespace DumpLens

namespace JsonReader

variable {input rest : CodePoints} {depth : Nat}

/-! ## Marks and names -/

theorem nextMark_eq {mark : Char}
    (starts : input.dropWhile isBlankPoint = .character mark :: rest) :
    ∃ shorter, nextMark input = some ⟨mark, rest, shorter⟩ := by
  have shorter : rest.length < input.length := by
    have bound := length_dropWhile_le isBlankPoint input
    rw [starts] at bound
    exact bound
  refine ⟨shorter, ?_⟩
  unfold nextMark
  split
  · rename_i found
    rw [starts] at found
    cases found
    rfl
  · rename_i other
    exact absurd starts (other mark rest)

/-- Characters that stand for themselves in strings. -/
def isLiteral (character : Char) : Bool :=
  character != '"' && character != '\\' && 0x20 ≤ character.toNat

theorem stringPieces_literal {name : Text} (literal : name.all isLiteral) (rest : CodePoints) :
    ∃ shorter, stringPieces .plain (.ofText name ++ .character '"' :: rest) =
      some ⟨name.map fun character => .point (.character character), rest, shorter⟩ := by
  induction name with
  | nil => exact ⟨_, rfl⟩
  | cons character name induction =>
      rw [List.all_cons, Bool.and_eq_true] at literal
      rcases induction literal.2 with ⟨shorter, read⟩
      have notQuote : character ≠ '"' := by
        rintro rfl
        exact absurd literal.1 (by decide)
      have notEscape : character ≠ '\\' := by
        rintro rfl
        exact absurd literal.1 (by decide)
      have shown : ¬ character.toNat < 0x20 := by
        have isShown := literal.1
        simp only [isLiteral, Bool.and_eq_true, decide_eq_true_eq] at isShown
        omega
      rw [CodePoints.ofText, List.map_cons, List.cons_append, ← CodePoints.ofText, stringPieces,
        if_neg notQuote, if_neg notEscape, if_neg shown, read]
      exact ⟨_, rfl⟩

theorem stringContent_literal {name : Text} (literal : name.all isLiteral) (rest : CodePoints) :
    ∃ shorter, stringContent (.ofText name ++ .character '"' :: rest) =
      some ⟨.ofText name, rest, shorter⟩ := by
  have points : StringPiece.points (name.map fun character => .point (.character character)) =
      CodePoints.ofText name := by
    clear literal
    induction name with
    | nil => rfl
    | cons character name induction =>
        rw [List.map_cons, StringPiece.points, induction]
        rfl
  rcases stringPieces_literal literal rest with ⟨shorter, read⟩
  refine ⟨shorter, ?_⟩
  simp only [stringContent, read, Option.map_some, Reading.map, points]

/-! ## Numbers -/

theorem isNumberPart_of_mem_ofNat {number : Nat} {character : Char}
    (member : character ∈ Text.ofNat number) : isNumberPart character := by
  rw [isNumberPart, Text.isAsciiDigit_of_mem_ofNat member, Bool.true_or]

theorem numberText_append {digits : Text} (inside : ∀ digit ∈ digits, isNumberPart digit = true)
    {next : Char} (behind : isNumberPart next = false) (rest : CodePoints) :
    numberText (.ofText digits ++ .character next :: rest) = digits := by
  induction digits with
  | nil => simp [CodePoints.ofText, numberText, behind]
  | cons digit digits induction =>
      have isInside := inside digit List.mem_cons_self
      have others := induction fun digit member => inside digit (List.mem_cons_of_mem _ member)
      rw [CodePoints.ofText, List.map_cons, List.cons_append, ← CodePoints.ofText, numberText,
        if_pos isInside, others]

theorem numeral_ofNat {number : Nat} (short : (Text.ofNat number).length ≤ Numeral.limit) :
    numeral (Text.ofNat number) = .ok (Text.ofNat number) := by
  have digits : ∀ digit ∈ Text.ofNat number, isAsciiDigit digit = true := by
    intro digit member
    exact Text.isAsciiDigit_of_mem_ofNat member
  have noSign : (Text.ofNat number).head? ≠ some '-' := by
    intro sign
    exact absurd (digits '-' (List.mem_of_head? sign)) (by decide)
  have whole : wholeDigits (Text.ofNat number) = Text.ofNat number := by
    unfold wholeDigits leadingDigits
    by_cases zero : number = 0
    · subst zero
      rfl
    · rw [if_neg (Text.head?_ofNat zero)]
      have all : (Text.ofNat number ++ []).takeWhile isAsciiDigit = _ :=
        List.takeWhile_append_of_pos digits
      simpa using all
  have notTooLong : ¬ Numeral.limit < (Text.ofNat number).length := Nat.not_lt.mpr short
  simp [numeral, noSign, whole, notTooLong, fraction, exponent]

/-- A digit begins no name of a value. -/
theorem plainValue_digit {digit : Char} (isDigit : isAsciiDigit digit = true)
    (rest : CodePoints) :
    plainValue (.character digit :: rest) =
      (numeral (numberText (.character digit :: rest))).map fun written =>
        (written, .number written) := by
  have other (letter : Char) (noDigit : isAsciiDigit letter = false) : letter ≠ digit := by
    rintro rfl
    rw [isDigit] at noDigit
    cases noDigit
  have noName : (namedValues.find? fun named =>
      (CodePoints.ofText named.1).isPrefixOf (.character digit :: rest)) = none := by
    have n := other 'n' (by decide)
    have t := other 't' (by decide)
    have f := other 'f' (by decide)
    have notANumber := other 'N' (by decide)
    have infinity := other 'I' (by decide)
    have minus := other '-' (by decide)
    simp [namedValues, namedNumbers, CodePoints.ofText, n, t, f, notANumber, infinity, minus]
  unfold plainValue
  split
  · rename_i found
    cases noName.symm.trans found
  · rfl

theorem simpleValue_digit {digit : Char} {digits : Text} (isDigit : isAsciiDigit digit = true)
    (read : numeral (numberText (.character digit :: (CodePoints.ofText digits ++ rest))) =
      .ok (digit :: digits)) :
    ∃ shorter, simpleValue (.character digit :: (CodePoints.ofText digits ++ rest)) =
      .ok ⟨.number (digit :: digits), rest, shorter⟩ := by
  have shorter : rest.length < (.character digit :: (CodePoints.ofText digits ++ rest)).length := by
    rw [List.length_cons, List.length_append]
    omega
  refine ⟨shorter, ?_⟩
  have behind : (CodePoints.ofText digits ++ rest).drop digits.length = rest := by
    have sameLength : (CodePoints.ofText digits).length = digits.length := List.length_map _
    rw [← sameLength, List.drop_left]
  simp only [simpleValue, plainValue_digit isDigit, read, Except.map, Reading.drop?,
    List.length_cons, Nat.add_sub_cancel, behind]

theorem readValue_number {number : Nat} (short : (Text.ofNat number).length ≤ Numeral.limit)
    {next : Char} (behind : isNumberPart next = false) (rest : CodePoints) :
    ∃ shorter, readValue depth (.character ' ' ::
        (CodePoints.ofText (Text.ofNat number) ++ .character next :: rest)) =
      .ok ⟨.number (Text.ofNat number), .character next :: rest, shorter⟩ := by
  have inside : ∀ digit ∈ Text.ofNat number, isNumberPart digit = true := by
    intro digit member
    exact isNumberPart_of_mem_ofNat member
  have text := numberText_append inside behind rest
  have read := numeral_ofNat short
  have allDigits : ∀ digit ∈ Text.ofNat number, isAsciiDigit digit = true := by
    intro digit member
    exact Text.isAsciiDigit_of_mem_ofNat member
  cases digits : Text.ofNat number with
  | nil => exact absurd digits (Text.ofNat_ne_nil number)
  | cons digit others =>
      have isDigit := allDigits digit (digits ▸ List.mem_cons_self)
      rw [digits] at text read
      rcases simpleValue_digit isDigit ((congrArg numeral text).trans read) with ⟨lesser, value⟩
      have other (mark : Char) (noDigit : isAsciiDigit mark = false) : digit ≠ mark := by
        rintro rfl
        rw [isDigit] at noDigit
        cases noDigit
      have mark : ∃ shorter, nextMark (.character ' ' ::
          (CodePoints.ofText (digit :: others) ++ .character next :: rest)) =
            some ⟨digit, CodePoints.ofText others ++ .character next :: rest, shorter⟩ := by
        apply nextMark_eq
        have space := other ' ' (by decide)
        have tab := other '\t' (by decide)
        have newline := other '\n' (by decide)
        have carriageReturn := other '\r' (by decide)
        simp [CodePoints.ofText, isBlankPoint, isBlank, space, tab, newline, carriageReturn]
      rcases mark with ⟨shorter, mark⟩
      refine ⟨Nat.lt_of_lt_of_le lesser shorter, ?_⟩
      rw [readValue]
      simp only [mark]
      split
      · rename_i equal
        cases equal
      · rename_i equal
        cases equal
        cases isDigit
      · rename_i equal
        cases equal
        cases isDigit
      · rename_i equal
        cases equal
        cases isDigit
      · rename_i equal
        cases equal
        rw [value]
        rfl

/-! ## Entries -/

/-- A number from the blank in front of it up to the mark behind it. -/
def numberPoints (number : Nat) (next : Char) (rest : CodePoints) : CodePoints :=
  .character ' ' :: (CodePoints.ofText (Text.ofNat number) ++ .character next :: rest)

/-- An entry with a number from its name up to the mark behind it. -/
def entryPoints (name : Text) (number : Nat) (next : Char) (rest : CodePoints) : CodePoints :=
  .character '"' :: (CodePoints.ofText name ++
    .character '"' :: .character ':' :: numberPoints number next rest)

/-- The parts of an entry are read one after the other. -/
theorem entry_parts (depth : Nat) {name : Text} {number : Nat} {next : Char}
    (literal : name.all isLiteral) (short : (Text.ofNat number).length ≤ Numeral.limit)
    (behind : isNumberPart next = false)
    (starts : input.dropWhile isBlankPoint = entryPoints name number next rest) :
    (∃ shorter, nextMark input = some ⟨'"', CodePoints.ofText name ++
      .character '"' :: .character ':' :: numberPoints number next rest, shorter⟩) ∧
    (∃ shorter, stringContent (CodePoints.ofText name ++
      .character '"' :: .character ':' :: numberPoints number next rest) =
        some ⟨.ofText name, .character ':' :: numberPoints number next rest, shorter⟩) ∧
    (∃ shorter, nextMark (.character ':' :: numberPoints number next rest) =
      some ⟨':', numberPoints number next rest, shorter⟩) ∧
    ∃ shorter, readValue depth (numberPoints number next rest) =
      .ok ⟨.number (Text.ofNat number), .character next :: rest, shorter⟩ :=
  ⟨nextMark_eq starts, stringContent_literal literal _, nextMark_eq rfl,
    readValue_number short behind rest⟩

theorem readEntries_last {name : Text} {number : Nat} (literal : name.all isLiteral)
    (short : (Text.ofNat number).length ≤ Numeral.limit)
    (starts : input.dropWhile isBlankPoint = entryPoints name number '\x7d' rest) :
    ∃ shorter, readEntries depth input =
      .ok ⟨[(.ofText name, .number (Text.ofNat number))], rest, shorter⟩ := by
  rcases entry_parts depth literal short (by decide) starts with
    ⟨⟨first, opening⟩, ⟨second, content⟩, ⟨third, colon⟩, ⟨fourth, value⟩⟩
  have mark : List.dropWhile isBlankPoint (.character '\x7d' :: rest) = _ := rfl
  rcases nextMark_eq mark with ⟨fifth, closing⟩
  rw [readEntries]
  simp only [opening, content, colon, value, closing]
  exact ⟨by omega, trivial⟩

theorem readEntries_more {name : Text} {number : Nat} {entries : JsonEntries} {last : CodePoints}
    {lesser : last.length < rest.length} (literal : name.all isLiteral)
    (short : (Text.ofNat number).length ≤ Numeral.limit)
    (starts : input.dropWhile isBlankPoint = entryPoints name number ',' rest)
    (others : readEntries depth rest = .ok ⟨entries, last, lesser⟩) :
    ∃ shorter, readEntries depth input =
      .ok ⟨(.ofText name, .number (Text.ofNat number)) :: entries, last, shorter⟩ := by
  rcases entry_parts depth literal short (by decide) starts with
    ⟨⟨first, opening⟩, ⟨second, content⟩, ⟨third, colon⟩, ⟨fourth, value⟩⟩
  have mark : List.dropWhile isBlankPoint (.character ',' :: rest) = _ := rfl
  rcases nextMark_eq mark with ⟨fifth, comma⟩
  rw [readEntries]
  simp only [opening, content, colon, value, comma, others]
  refine ⟨?_, rfl⟩
  omega

theorem readValue_object {entries : JsonEntries} {following last : CodePoints}
    {lesser : last.length < rest.length}
    (starts : input.dropWhile isBlankPoint = .character '\x7b' :: rest)
    (notEmpty : rest.dropWhile isBlankPoint = .character '"' :: following)
    (read : readEntries depth rest = .ok ⟨entries, last, lesser⟩) :
    ∃ shorter, readValue (depth + 1) input =
      .ok ⟨.object (Json.lastEntries entries), last, shorter⟩ := by
  rcases nextMark_eq starts with ⟨first, opening⟩
  rcases nextMark_eq notEmpty with ⟨second, quote⟩
  refine ⟨Nat.lt_trans lesser first, ?_⟩
  rw [readValue]
  simp only [opening, quote]
  split
  · rename_i zero
    exact absurd zero (Nat.succ_ne_zero _)
  · rename_i closed
    cases closed
  · rename_i equal _
    cases equal
    rw [read]
    rfl

end JsonReader

/-! ## Spans -/

/-- Different spans are different objects. -/
theorem Json.ofSpan_injective : Function.Injective Json.ofSpan := by
  intro first second equal
  simp only [Json.ofSpan, Json.record, Json.integer, Json.object.injEq, List.map_cons, List.map_nil,
    List.cons.injEq, Prod.mk.injEq, Json.number.injEq, true_and, and_true] at equal
  rcases equal with ⟨startLine, startCol, endLine, endCol⟩
  have sameStartLine := Text.ofInt_injective startLine
  have sameStartCol := Text.ofInt_injective startCol
  have sameEndLine := Text.ofInt_injective endLine
  have sameEndCol := Text.ofInt_injective endCol
  cases first
  cases second
  simp_all

/-- The text of a span, mark by mark. -/
theorem ofText_fieldText (startLine startCol endLine endCol : Nat) :
    CodePoints.ofText (SourceSpan.fieldText ⟨startLine, startCol, endLine, endCol⟩) =
      .character '\x7b' :: JsonReader.entryPoints "start_line".toList startLine ','
        (.character ' ' :: JsonReader.entryPoints "start_col".toList startCol ','
          (.character ' ' :: JsonReader.entryPoints "end_line".toList endLine ','
            (.character ' ' :: JsonReader.entryPoints "end_col".toList endCol '\x7d' []))) := by
  have parts (first second third fourth last a b c d : Text) :
      CodePoints.ofText (first ++ a ++ second ++ b ++ third ++ c ++ fourth ++ d ++ last) =
        CodePoints.ofText first ++ (CodePoints.ofText a ++ (CodePoints.ofText second ++
          (CodePoints.ofText b ++ (CodePoints.ofText third ++ (CodePoints.ofText c ++
            (CodePoints.ofText fourth ++ (CodePoints.ofText d ++ CodePoints.ofText last))))))) := by
    simp [CodePoints.ofText]
  exact (parts ..).trans rfl

/-- What is written for a span is read back as an object with its numbers. -/
theorem SourceSpan.read_fieldText {span : SourceSpan} (readable : span.Readable) :
    Json.read (.ofText span.fieldText) = .ok (Json.ofSpan span) := by
  rcases span with ⟨startLine, startCol, endLine, endCol⟩
  rcases readable with ⟨⟨startLine, rfl, startLineShort⟩, ⟨startCol, rfl, startColShort⟩,
    ⟨endLine, rfl, endLineShort⟩, ⟨endCol, rfl, endColShort⟩⟩
  let fourth : CodePoints :=
    .character ' ' :: JsonReader.entryPoints "end_col".toList endCol '\x7d' []
  let third : CodePoints :=
    .character ' ' :: JsonReader.entryPoints "end_line".toList endLine ',' fourth
  let second : CodePoints :=
    .character ' ' :: JsonReader.entryPoints "start_col".toList startCol ',' third
  let first : CodePoints := JsonReader.entryPoints "start_line".toList startLine ',' second
  have fourthRead : ∃ shorter, JsonReader.readEntries 967 fourth = .ok ⟨_, [], shorter⟩ :=
    JsonReader.readEntries_last (by decide) endColShort rfl
  rcases fourthRead with ⟨_, fourthRead⟩
  have thirdRead : ∃ shorter, JsonReader.readEntries 967 third = .ok ⟨_, [], shorter⟩ :=
    JsonReader.readEntries_more (by decide) endLineShort rfl fourthRead
  rcases thirdRead with ⟨_, thirdRead⟩
  have secondRead : ∃ shorter, JsonReader.readEntries 967 second = .ok ⟨_, [], shorter⟩ :=
    JsonReader.readEntries_more (by decide) startColShort rfl thirdRead
  rcases secondRead with ⟨_, secondRead⟩
  have firstRead : ∃ shorter, JsonReader.readEntries 967 first = .ok ⟨_, [], shorter⟩ :=
    JsonReader.readEntries_more (by decide) startLineShort rfl secondRead
  rcases firstRead with ⟨_, firstRead⟩
  have objectRead : ∃ shorter, JsonReader.readValue 968 (.character '\x7b' :: first) =
      .ok ⟨_, [], shorter⟩ :=
    JsonReader.readValue_object rfl rfl firstRead
  rcases objectRead with ⟨_, objectRead⟩
  rw [ofText_fieldText, Json.read, Json.depthLimit, objectRead]
  rfl

end DumpLens
