import DumpLens.Proofs.Failure
import DumpLens.Proofs.Text.Digits
import DumpLens.Toml.Value

/-! Which values of documents have a text. Collections are shown with all that stands in them, so
a value has none where an integer somewhere in it has too many digits, or where collections stand
in each other too often. -/

namespace DumpLens.Toml.Value

/-- The values that can be written where collections may stand in each other as often as the given
number says. No integer in them has too many digits. -/
inductive Printable : Nat → Value → Prop
  | string {depth : Nat} (text : Text) : Printable depth (.string text)
  | integer {depth : Nat} {number : Int}
      (short : (Text.ofNat number.natAbs).length ≤ Numeral.limit) :
      Printable depth (.integer number)
  | float {depth : Nat} (number : Double) : Printable depth (.float number)
  | boolean {depth : Nat} (truth : Bool) : Printable depth (.boolean truth)
  | date {depth : Nat} (day : Date) : Printable depth (.date day)
  | time {depth : Nat} (clock : Time) : Printable depth (.time clock)
  | dateTime {depth : Nat} (moment : DateTime) : Printable depth (.dateTime moment)
  | array {depth : Nat} {items : List Value} (each : ∀ item ∈ items, Printable depth item) :
      Printable (depth + 1) (.array items)
  | table {depth : Nat} {entries : List (Text × Value)}
      (each : ∀ entry ∈ entries, Printable depth entry.2) : Printable (depth + 1) (.table entries)

theorem integerText_of_short {number : Int}
    (short : (Text.ofNat number.natAbs).length ≤ Numeral.limit) :
    integerText number = .ok (Text.ofInt number) := by
  unfold integerText
  rw [Numeral.write?_of_short short]

theorem integerText_of_long {number : Int}
    (long : Numeral.limit < (Text.ofNat number.natAbs).length) :
    integerText number = .error .overlongInteger := by
  unfold integerText
  rw [Numeral.write?_of_long long]

theorem integerText_isOk_iff {number : Int} : (∃ text, integerText number = .ok text) ↔
    (Text.ofNat number.natAbs).length ≤ Numeral.limit := by
  constructor
  · rintro ⟨text, written⟩
    apply Nat.le_of_not_lt
    intro long
    cases (integerText_of_long long).symm.trans written
  · exact fun short => ⟨_, integerText_of_short short⟩

mutual

theorem shownWithin_isOk_iff (depth : Nat) (value : Value) :
    (∃ text, value.shownWithin depth = .ok text) ↔ value.Printable depth := by
  cases value with
  | string text => simp [shownWithin, Printable.string]
  | integer number =>
      rw [shownWithin, integerText_isOk_iff]
      exact ⟨.integer, fun | .integer short => short⟩
  | float number => simp [shownWithin, Printable.float]
  | boolean truth => simp [shownWithin, Printable.boolean]
  | date day => simp [shownWithin, Printable.date]
  | time clock => simp [shownWithin, Printable.time]
  | dateTime moment => simp [shownWithin, Printable.dateTime]
  | array items =>
      cases depth with
      | zero =>
          constructor
          · rintro ⟨text, ⟨⟩⟩
          · rintro ⟨⟩
      | succ depth =>
          have shows : (∃ text, (array items).shownWithin (depth + 1) = .ok text) ↔
              ∃ texts, shownItems depth items = .ok texts := by
            simp only [shownWithin, Nat.add_one_ne_zero, if_false, bind_isOk_iff, pure_isOk]
            simp
          rw [shows, shownItems_isOk_iff]
          exact ⟨.array, fun | .array each => each⟩
  | table entries =>
      cases depth with
      | zero =>
          constructor
          · rintro ⟨text, ⟨⟩⟩
          · rintro ⟨⟩
      | succ depth =>
          have shows : (∃ text, (table entries).shownWithin (depth + 1) = .ok text) ↔
              ∃ texts, shownEntries depth entries = .ok texts := by
            simp only [shownWithin, Nat.add_one_ne_zero, if_false, bind_isOk_iff, pure_isOk]
            simp
          rw [shows, shownEntries_isOk_iff]
          exact ⟨.table, fun | .table each => each⟩

theorem shownItems_isOk_iff (depth : Nat) (items : List Value) :
    (∃ texts, shownItems depth items = .ok texts) ↔ ∀ item ∈ items, item.Printable depth := by
  cases items with
  | nil => simp [shownItems]
  | cons item items =>
      rw [List.forall_mem_cons, ← shownWithin_isOk_iff depth item,
        ← shownItems_isOk_iff depth items]
      simp only [shownItems, bind_isOk_iff, pure_isOk, and_true, exists_and_right]

theorem shownEntries_isOk_iff (depth : Nat) (entries : List (Text × Value)) :
    (∃ texts, shownEntries depth entries = .ok texts) ↔
      ∀ entry ∈ entries, entry.2.Printable depth := by
  cases entries with
  | nil => simp [shownEntries]
  | cons entry entries =>
      rw [List.forall_mem_cons, ← shownWithin_isOk_iff depth entry.2,
        ← shownEntries_isOk_iff depth entries]
      simp only [shownEntries, bind_isOk_iff, pure_isOk, and_true, exists_and_right]

end

/-- Where a value has a text as it would be written in a program, it has one as it is. -/
theorem text_isOk_iff {value : Value} :
    (∃ text, value.text = .ok text) ↔ value.Printable shownDepth := by
  cases value with
  | string text => exact ⟨fun _ => .string text, fun _ => ⟨_, rfl⟩⟩
  | date day => exact ⟨fun _ => .date day, fun _ => ⟨_, rfl⟩⟩
  | time clock => exact ⟨fun _ => .time clock, fun _ => ⟨_, rfl⟩⟩
  | dateTime moment => exact ⟨fun _ => .dateTime moment, fun _ => ⟨_, rfl⟩⟩
  | integer | float | boolean | array | table => exact shownWithin_isOk_iff shownDepth _

end DumpLens.Toml.Value
