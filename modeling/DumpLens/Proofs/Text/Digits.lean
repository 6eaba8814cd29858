import DumpLens.Text.Ascii
import DumpLens.Text.Numeral

/-! Digits of numbers as they are written, and how many digits the number of a numeral
has. -/

namespace DumpLens

/-! ## Digits that are written -/

namespace Text

theorem isAsciiDigit_of_mem_ofNat {number : Nat} {character : Char}
    (member : character ∈ Text.ofNat number) : isAsciiDigit character := by
  have digit := Nat.isDigit_of_mem_toDigits (by decide) (by decide) member
  simpa [isAsciiDigit, Char.isDigit, Char.le_def, UInt32.le_iff_toNat_le] using digit

@[simp] theorem ofNat_ne_nil (number : Nat) : Text.ofNat number ≠ [] :=
  Nat.toDigits_ne_nil

/-- Only zero is written with a zero in front. -/
theorem head?_ofNat {number : Nat} (positive : number ≠ 0) :
    (Text.ofNat number).head? ≠ some '0' := by
  induction number using Nat.strongRecOn with
  | ind number induction =>
      by_cases small : number < 10
      · have digit : ∀ digit : Fin 10, digit ≠ 0 → digit.val.digitChar ≠ '0' := by
          decide
        rw [Text.ofNat, Nat.toDigits_of_lt_base small]
        intro equal
        exact digit ⟨number, small⟩ (by simpa [Fin.ext_iff] using positive) (Option.some.inj equal)
      · have fewer : number / 10 < number := by omega
        have earlier := induction (number / 10) fewer (by omega)
        rw [Text.ofNat, Nat.toDigits_of_base_le (by decide) (by omega)]
        rw [Text.ofNat] at earlier
        cases higher : Nat.toDigits 10 (number / 10) with
        | nil => exact absurd higher Nat.toDigits_ne_nil
        | cons first rest =>
            rw [higher] at earlier
            exact earlier

/-- Different numbers are written differently. -/
theorem ofNat_injective : Function.Injective Text.ofNat := by
  intro first second equal
  have value := congrArg (Nat.ofDigitChars 10 · 0) equal
  simp only [Text.ofNat, Nat.ofDigitChars_toDigits (b := 10) (by decide) (by decide)] at value
  exact value

theorem not_mem_ofNat {number : Nat} {character : Char} (noDigit : isAsciiDigit character = false) :
    character ∉ Text.ofNat number := by
  intro member
  rw [isAsciiDigit_of_mem_ofNat member] at noDigit
  cases noDigit

theorem ofInt_injective : Function.Injective Text.ofInt := by
  have signed (natural : Nat) (rest : Text) : Text.ofNat natural ≠ '-' :: rest := by
    intro equal
    exact not_mem_ofNat (by decide) (equal ▸ List.mem_cons_self)
  intro first second equal
  cases first with
  | ofNat first =>
      cases second with
      | ofNat second => exact congrArg Int.ofNat (ofNat_injective equal)
      | negSucc second => exact absurd equal (signed first _)
  | negSucc first =>
      cases second with
      | ofNat second => exact absurd equal.symm (signed second _)
      | negSucc second =>
          have size := ofNat_injective (List.cons.inj equal).2
          exact congrArg Int.negSucc (Nat.succ.inj size)

/-- The characters of a number are digits and signs. -/
theorem mem_ofInt {number : Int} {character : Char} (member : character ∈ Text.ofInt number) :
    isAsciiDigit character = true ∨ character = '-' := by
  cases number with
  | ofNat natural => exact .inl (isAsciiDigit_of_mem_ofNat member)
  | negSucc natural =>
      cases member with
      | head => exact .inr rfl
      | tail _ member => exact .inl (isAsciiDigit_of_mem_ofNat member)

end Text

/-! ## Numbers that are read -/

theorem digitValue?_lt {character : Char} {digit : Nat}
    (isValue : digitValue? character = some digit) : digit < 10 := by
  rcases Option.map_eq_some_iff.mp isValue with ⟨first, found, rfl⟩
  have inRange := List.find?_some found
  simp only [Bool.and_eq_true, decide_eq_true_eq] at inRange
  omega

namespace Numeral

variable {digits : Text}

theorem read_of_short (short : digits.length ≤ limit) : read digits = .ok (value digits) :=
  if_pos short

theorem read_of_long (long : limit < digits.length) : read digits = .error ⟨digits.length⟩ :=
  if_neg (Nat.not_le_of_lt long)

theorem read_eq_ok_iff {number : Nat} :
    read digits = .ok number ↔ digits.length ≤ limit ∧ value digits = number := by
  rcases Nat.lt_or_ge limit digits.length with long | short
  · simp [read_of_long long, Nat.not_le_of_lt long]
  · simp [read_of_short short, short]

theorem read_eq_error_iff {refusal : Overlong} :
    read digits = .error refusal ↔ limit < digits.length ∧ refusal = ⟨digits.length⟩ := by
  rcases Nat.lt_or_ge limit digits.length with long | short
  · simp [read_of_long long, long, eq_comm]
  · simp [read_of_short short, Nat.not_lt_of_le short]

/-- A numeral has no fewer digits than its number needs. -/
theorem value_lt (digits : Text) : value digits < Nat.pow 10 digits.length := by
  have reading (digits : Text) (number : Nat) :
      digits.foldl (fun number digit => 10 * number + (digitValue? digit).getD 0) number <
        (number + 1) * Nat.pow 10 digits.length := by
    induction digits generalizing number with
    | nil => simp
    | cons digit digits induction =>
        have small : (digitValue? digit).getD 0 < 10 := by
          cases isValue : digitValue? digit with
          | none => decide
          | some value => exact digitValue?_lt isValue
        have next := induction (10 * number + (digitValue? digit).getD 0)
        calc
          _ < (10 * number + (digitValue? digit).getD 0 + 1) * Nat.pow 10 digits.length := next
          _ ≤ ((number + 1) * 10) * Nat.pow 10 digits.length := by
            apply Nat.mul_le_mul_right
            omega
          _ = (number + 1) * Nat.pow 10 (digit :: digits).length := by
            rw [Nat.mul_assoc, Nat.mul_comm 10]
            rfl
  have fromZero := reading digits 0
  rw [Nat.zero_add, Nat.one_mul] at fromZero
  exact fromZero

theorem length_ofNat_le_limit_iff {number : Nat} :
    (Text.ofNat number).length ≤ limit ↔ number < Nat.pow 10 limit := by
  have positive : 0 < limit := by decide
  generalize limit = bound at positive ⊢
  exact Nat.length_toDigits_le_iff (by decide) positive

/-- What is read is short enough to be written. -/
theorem length_ofNat_le {number : Nat} (isNumber : read digits = .ok number) :
    (Text.ofNat number).length ≤ limit := by
  rcases read_eq_ok_iff.mp isNumber with ⟨short, rfl⟩
  apply length_ofNat_le_limit_iff.mpr
  generalize limit = bound at short ⊢
  exact Nat.lt_of_lt_of_le (value_lt digits) (Nat.pow_le_pow_right (by decide) short)

theorem write?_of_short {number : Int} (short : (Text.ofNat number.natAbs).length ≤ limit) :
    write? number = some (Text.ofInt number) :=
  if_pos (length_ofNat_le_limit_iff.mp short)

theorem write?_of_long {number : Int} (long : limit < (Text.ofNat number.natAbs).length) :
    write? number = none :=
  if_neg fun small => Nat.not_le_of_lt long (length_ofNat_le_limit_iff.mpr small)

end Numeral

end DumpLens
