import DumpLens.Proofs.Toml.Shown
import Mathlib.Tactic.SplitIfs

/-! Texts without control characters. A value as one would write it in a program is such a text:
strings have escapes for control characters, and nothing else in a value can hold one. -/

namespace DumpLens

namespace Text

/-- A text without control characters, as a part of a line can be. -/
def Inline (text : Text) : Prop :=
  ∀ character ∈ text, ' ' ≤ character

instance (text : Text) : Decidable text.Inline :=
  List.decidableBAll _ text

variable {text : Text} {character : Char}

@[simp] theorem inline_nil : Inline [] :=
  List.forall_mem_nil _

@[simp] theorem inline_cons : Inline (character :: text) ↔ ' ' ≤ character ∧ text.Inline :=
  List.forall_mem_cons

@[simp] theorem inline_append {front behind : Text} :
    Inline (front ++ behind) ↔ front.Inline ∧ behind.Inline :=
  List.forall_mem_append

theorem Inline.not_mem (inline : text.Inline) (control : character < ' ') : character ∉ text :=
  fun member => Char.not_le.mpr control (inline character member)

theorem Inline.take (inline : text.Inline) (count : Nat) : Inline (text.take count) :=
  fun character member => inline character (List.mem_of_mem_take member)

theorem Inline.drop (inline : text.Inline) (count : Nat) : Inline (text.drop count) :=
  fun character member => inline character (List.mem_of_mem_drop member)

theorem inline_replicate (count : Nat) (visible : ' ' ≤ character) :
    Inline (List.replicate count character) :=
  fun _ member => (List.eq_of_mem_replicate member).symm ▸ visible

theorem Inline.leftpad (inline : text.Inline) (width : Nat) (visible : ' ' ≤ character) :
    Inline (text.leftpad width character) :=
  inline_append.mpr ⟨inline_replicate _ visible, inline⟩

theorem inline_digitChar (digit : Nat) : ' ' ≤ digit.digitChar := by
  by_cases small : digit < 16
  · have each : ∀ digit : Fin 16, ' ' ≤ digit.val.digitChar := by decide
    exact each ⟨digit, small⟩
  · have other : digit.digitChar = '*' := by
      unfold Nat.digitChar
      repeat rw [if_neg (by omega)]
    rw [other]
    decide

theorem inline_toDigits {base : Nat} (large : 1 < base) (number : Nat) :
    Inline (Nat.toDigits base number) := by
  induction number using Nat.strongRecOn with
  | ind number induction =>
      by_cases small : number < base
      · rw [Nat.toDigits_of_lt_base small]
        exact inline_cons.mpr ⟨inline_digitChar number, inline_nil⟩
      · have fewer : number / base < number := Nat.div_lt_self (by omega) large
        rw [Nat.toDigits_of_base_le large (by omega)]
        exact inline_append.mpr
          ⟨induction _ fewer, inline_cons.mpr ⟨inline_digitChar _, inline_nil⟩⟩

@[simp] theorem inline_ofNat (number : Nat) : Inline (ofNat number) :=
  inline_toDigits (by decide) number

@[simp] theorem inline_ofInt (number : Int) : Inline (ofInt number) := by
  cases number with
  | ofNat number => exact inline_ofNat number
  | negSucc number => exact inline_cons.mpr ⟨by decide, inline_ofNat _⟩

end Text

open Text

/-! ## Quoted texts -/

theorem visible_of_isPrintable {character : Char} (printable : isPrintable character = true) :
    ' ' ≤ character := by
  rcases CodeTable.contains_iff.mp printable with ⟨range, member, first, _⟩
  have visible : ∀ range ∈ printableTable, 0x20 ≤ range.1 := by decide +kernel
  exact Char.le_def.mpr (UInt32.le_iff_toNat_le.mpr (Nat.le_trans (visible range member) first))

namespace Quoted

theorem inline_codeEscape (character : Char) : Inline (codeEscape character) := by
  have digits (width : Nat) : Inline (hex width character.toNat) :=
    (inline_toDigits (by decide) _).leftpad width (by decide)
  unfold codeEscape
  dsimp only
  split_ifs <;> simp only [inline_cons, digits] <;> decide

theorem inline_quoteChar {mark : Char} (visible : ' ' ≤ mark) (character : Char) :
    Inline (quoteChar mark character) := by
  unfold quoteChar
  split_ifs with special newline ending tab printable
  · rcases special with rfl | rfl
    · exact inline_cons.mpr ⟨by decide, inline_cons.mpr ⟨visible, inline_nil⟩⟩
    · decide
  · decide
  · decide
  · decide
  · exact inline_cons.mpr ⟨visible_of_isPrintable printable, inline_nil⟩
  · exact inline_codeEscape character

/-- Whatever a text holds, no control character is left in it when it is quoted. -/
theorem inline_quote (text : Text) : Inline (quote text) := by
  have visible : ' ' ≤ markFor text := by
    unfold markFor
    split_ifs <;> decide
  have inside : Inline (text.flatMap (quoteChar (markFor text))) := by
    intro character member
    rcases List.mem_flatMap.mp member with ⟨own, _, isIn⟩
    exact inline_quoteChar visible own character isIn
  unfold quote
  simp only [inline_append, inline_cons, inline_nil, visible, inside, and_self]

end Quoted

/-! ## Numbers and times -/

namespace Double

theorem inline_positional {digits : Text} (inline : digits.Inline) (place : Int) :
    Inline (positional digits place) := by
  unfold positional
  split
  · simp [inline, inline_replicate]
  · have whole := inline.take place.toNat
    have fraction := inline.drop place.toNat
    dsimp only
    split_ifs <;> simp [whole, fraction, inline_replicate]

theorem inline_scientific {digits : Text} (inline : digits.Inline) (place : Int) :
    Inline (scientific digits place) := by
  have power : Inline ((Text.ofNat (place - 1).natAbs).leftpad 2 '0') :=
    (inline_ofNat _).leftpad 2 (by decide)
  have first := inline.take 1
  have fraction := inline.drop 1
  unfold scientific
  dsimp only
  split_ifs <;> simp only [inline_append, inline_cons, first, fraction, power] <;> decide

theorem inline_pointed (decimal : Decimal) : Inline (pointed decimal).1 := by
  intro character member
  have kept := List.dropWhile_suffix _ |>.subset (List.mem_reverse.mp member)
  exact inline_toDigits (by decide) _ character (List.mem_reverse.mp kept)

theorem inline_text (number : Double) : Inline number.text := by
  cases number with
  | notANumber => decide
  | infinite negative => cases negative <;> decide
  | finite negative mantissa exponent =>
      have sign : Inline (signText negative) := by
        cases negative <;> decide
      have magnitude : Inline (magnitudeText mantissa exponent) := by
        unfold magnitudeText
        split
        · decide
        · have digits := inline_pointed (shortest mantissa exponent)
          dsimp only
          split
          · exact inline_positional digits _
          · exact inline_scientific digits _
      exact inline_append.mpr ⟨sign, magnitude⟩

end Double

namespace Toml

theorem inline_commaSeparated {texts : List Text} (each : ∀ text ∈ texts, text.Inline) :
    Inline (commaSeparated texts) := by
  induction texts with
  | nil => exact inline_nil
  | cons text texts induction =>
      rcases List.forall_mem_cons.mp each with ⟨first, others⟩
      by_cases last : texts = []
      · rw [last, commaSeparated, List.intercalate_singleton]
        exact first
      · rw [commaSeparated, List.intercalate_cons_of_ne_nil last]
        exact inline_append.mpr ⟨inline_append.mpr ⟨first, by decide⟩, induction others⟩

theorem Date.inline_fields (date : Date) : ∀ text ∈ date.fields, text.Inline := by
  simp [fields]

theorem Time.inline_fields (time : Time) : ∀ text ∈ time.fields, text.Inline := by
  unfold fields
  split_ifs <;> simp

theorem inline_zoneConstructorText (minutes : Int) : Inline (zoneConstructorText minutes) := by
  unfold zoneConstructorText
  split
  · decide
  · dsimp only
    split <;> simp only [inline_append, inline_ofInt] <;> decide

theorem Date.inline_constructorText (date : Date) : Inline date.constructorText := by
  have fields := inline_commaSeparated date.inline_fields
  unfold constructorText
  simp only [inline_append, fields]
  decide

theorem Time.inline_constructorText (time : Time) : Inline time.constructorText := by
  have fields := inline_commaSeparated time.inline_fields
  unfold constructorText
  simp only [inline_append, fields]
  decide

theorem DateTime.inline_constructorText (moment : DateTime) : Inline moment.constructorText := by
  rcases moment with ⟨date, time, zone⟩
  have parts := List.forall_mem_append.mpr ⟨date.inline_fields, time.inline_fields⟩
  have written {zone : List Text} (each : ∀ text ∈ zone, text.Inline) :
      Inline ("datetime.datetime(".toList ++ commaSeparated (date.fields ++ time.fields ++ zone) ++
        [')']) := by
    have fields := inline_commaSeparated (List.forall_mem_append.mpr ⟨parts, each⟩)
    simp only [inline_append, fields]
    decide
  cases zone with
  | none => exact written (List.forall_mem_nil _)
  | some minutes =>
      have shown := inline_zoneConstructorText minutes
      exact written (List.forall_mem_singleton.mpr (inline_append.mpr ⟨by decide, shown⟩))

/-! ## Values -/

namespace Value

theorem inline_typeName (value : Value) : Inline value.typeName := by
  fun_cases typeName value <;> decide

theorem inline_integerText {number : Int} {text : Text} (shown : integerText number = .ok text) :
    text.Inline := by
  have short := integerText_isOk_iff.mp ⟨text, shown⟩
  cases (integerText_of_short short).symm.trans shown
  exact inline_ofInt number

mutual

theorem inline_shownWithin (depth : Nat) (value : Value) {text : Text}
    (shown : value.shownWithin depth = .ok text) : text.Inline := by
  cases value with
  | string own =>
      cases shown
      exact Quoted.inline_quote own
  | integer number =>
      rw [shownWithin] at shown
      exact inline_integerText shown
  | float number =>
      cases shown
      exact number.inline_text
  | boolean truth => cases truth <;> cases shown <;> decide
  | date day =>
      cases shown
      exact day.inline_constructorText
  | time clock =>
      cases shown
      exact clock.inline_constructorText
  | dateTime moment =>
      cases shown
      exact moment.inline_constructorText
  | array items =>
      cases depth with
      | zero => cases shown
      | succ depth =>
          rcases bind_eq_ok_iff.mp shown with ⟨texts, isTexts, ⟨⟩⟩
          have each := inline_commaSeparated (inline_shownItems depth items isTexts)
          simp only [inline_append, inline_cons, inline_nil, each]
          decide
  | table entries =>
      cases depth with
      | zero => cases shown
      | succ depth =>
          rcases bind_eq_ok_iff.mp shown with ⟨texts, isTexts, ⟨⟩⟩
          have each := inline_commaSeparated (inline_shownEntries depth entries isTexts)
          simp only [inline_append, inline_cons, inline_nil, each]
          decide

theorem inline_shownItems (depth : Nat) (items : List Value) {texts : List Text}
    (shown : shownItems depth items = .ok texts) : ∀ text ∈ texts, text.Inline := by
  cases items with
  | nil =>
      cases shown
      exact List.forall_mem_nil _
  | cons item items =>
      rcases bind_eq_ok_iff.mp shown with ⟨text, isText, more⟩
      rcases bind_eq_ok_iff.mp more with ⟨texts, areTexts, ⟨⟩⟩
      exact List.forall_mem_cons.mpr
        ⟨inline_shownWithin depth item isText, inline_shownItems depth items areTexts⟩

theorem inline_shownEntries (depth : Nat) (entries : List (Text × Value)) {texts : List Text}
    (shown : shownEntries depth entries = .ok texts) : ∀ text ∈ texts, text.Inline := by
  cases entries with
  | nil =>
      cases shown
      exact List.forall_mem_nil _
  | cons entry entries =>
      rcases bind_eq_ok_iff.mp shown with ⟨text, isText, more⟩
      rcases bind_eq_ok_iff.mp more with ⟨texts, areTexts, ⟨⟩⟩
      have first := inline_shownWithin depth entry.2 isText
      refine List.forall_mem_cons.mpr ⟨?_, inline_shownEntries depth entries areTexts⟩
      simp only [inline_append, Quoted.inline_quote, first]
      decide

end

/-- The text of a value can be a part of a line, whatever strings are in the value. -/
theorem inline_shown {value : Value} {text : Text} (isShown : value.shown = .ok text) :
    text.Inline := by
  rw [shown] at isShown
  exact inline_shownWithin shownDepth value isShown

end Value

end Toml

end DumpLens
