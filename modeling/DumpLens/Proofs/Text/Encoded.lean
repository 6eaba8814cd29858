import DumpLens.Text.Utf8

/-! Texts and their UTF-8 encodings. What was encoded is decoded as it was. -/

namespace DumpLens.Utf8

variable {byte share code low high : Nat} {ranges : List (Nat × Nat)} {rest : Bytes}

/-! ## Bytes -/

theorem toNat_ofNat (small : byte < 0x100) : (UInt8.ofNat byte).toNat = byte := by
  rw [UInt8.toNat_ofNat', Nat.mod_eq_of_lt small]

/-- The lead bytes of two bytes, by their share of the code point. -/
theorem lead_two (large : 2 ≤ share) (small : share < 32) :
    lead (share + 0xc0) = some (share, [(0x80, 0xbf)]) := by
  have ascii : ¬ share + 0xc0 < 0x80 := by omega
  have overlong : ¬ share + 0xc0 < 0xc2 := by omega
  have two : share + 0xc0 < 0xe0 := by omega
  rw [lead, if_neg ascii, if_neg overlong, if_pos two, Nat.add_sub_cancel]

/-- The lead bytes of three bytes. Two of them allow fewer second bytes. -/
theorem lead_three (small : share < 16) :
    lead (share + 0xe0) = some (share,
      [(if share = 0 then 0xa0 else 0x80, if share = 0xd then 0x9f else 0xbf), (0x80, 0xbf)]) := by
  have each : ∀ share : Fin 16, lead (share.val + 0xe0) = some (share.val,
      [(if share.val = 0 then 0xa0 else 0x80, if share.val = 0xd then 0x9f else 0xbf),
        (0x80, 0xbf)]) := by
    decide
  exact each ⟨share, small⟩

theorem lead_four (small : share < 5) :
    lead (share + 0xf0) = some (share,
      [(if share = 0 then 0x90 else 0x80, if share = 4 then 0x8f else 0xbf), (0x80, 0xbf),
        (0x80, 0xbf)]) := by
  have each : ∀ share : Fin 5, lead (share.val + 0xf0) = some (share.val,
      [(if share.val = 0 then 0x90 else 0x80, if share.val = 4 then 0x8f else 0xbf),
        (0x80, 0xbf), (0x80, 0xbf)]) := by
    decide
  exact each ⟨share, small⟩

theorem follow_byte (inside : low ≤ byte ∧ byte ≤ high) (small : byte < 0x100) :
    follow code ((low, high) :: ranges) (UInt8.ofNat byte :: rest) =
      follow (64 * code + (byte - 0x80)) ranges rest := by
  rw [follow, toNat_ofNat small, if_pos inside]

theorem decode_lead (announces : lead byte = some (code, ranges)) (small : byte < 0x100) :
    decode (UInt8.ofNat byte :: rest) =
      (follow code ranges rest).1 :: decode (follow code ranges rest).2 := by
  rw [decode, toNat_ofNat small, announces]

/-! ## Characters -/

variable {value : Nat}

theorem decode_two (large : 0x80 ≤ value) (small : value < 0x800) :
    decode (UInt8.ofNat (value / 64 % 32 + 0xc0) :: UInt8.ofNat (value % 64 + 0x80) :: rest) =
      some (Char.ofNat value) :: decode rest := by
  have whole : 64 * (value / 64 % 32) + (value % 64 + 0x80 - 0x80) = value := by
    omega
  rw [decode_lead (lead_two (by omega) (by omega)) (by omega),
    follow_byte (by omega) (by omega), whole, follow]

theorem decode_three (large : 0x800 ≤ value) (small : value < 0x10000)
    (valid : value < 0xd800 ∨ 0xdfff < value) :
    decode (UInt8.ofNat (value / 4096 % 16 + 0xe0) :: UInt8.ofNat (value / 64 % 64 + 0x80) ::
        UInt8.ofNat (value % 64 + 0x80) :: rest) =
      some (Char.ofNat value) :: decode rest := by
  have whole : 64 * (64 * (value / 4096 % 16) + (value / 64 % 64 + 0x80 - 0x80)) +
      (value % 64 + 0x80 - 0x80) = value := by
    omega
  rw [decode_lead (lead_three (by omega)) (by omega),
    follow_byte (by split <;> split <;> omega) (by omega), follow_byte (by omega) (by omega),
    whole, follow]

theorem decode_four (large : 0x10000 ≤ value) (small : value < 0x110000) :
    decode (UInt8.ofNat (value / 262144 % 8 + 0xf0) :: UInt8.ofNat (value / 4096 % 64 + 0x80) ::
        UInt8.ofNat (value / 64 % 64 + 0x80) :: UInt8.ofNat (value % 64 + 0x80) :: rest) =
      some (Char.ofNat value) :: decode rest := by
  have whole : 64 * (64 * (64 * (value / 262144 % 8) + (value / 4096 % 64 + 0x80 - 0x80)) +
      (value / 64 % 64 + 0x80 - 0x80)) + (value % 64 + 0x80 - 0x80) = value := by
    omega
  rw [decode_lead (lead_four (by omega)) (by omega),
    follow_byte (by split <;> split <;> omega) (by omega), follow_byte (by omega) (by omega),
    follow_byte (by omega) (by omega), whole, follow]

/-- The bytes of a character are decoded as that character. -/
theorem decode_character (character : Char) (rest : Bytes) :
    decode (String.utf8EncodeChar character ++ rest) = some character :: decode rest := by
  have same : Char.ofNat character.val.toNat = character := Char.ofNat_toNat character
  have valid : character.val.toNat < 0xd800 ∨
      0xdfff < character.val.toNat ∧ character.val.toNat < 0x110000 := character.valid
  conv => rhs; rw [← same]
  unfold String.utf8EncodeChar
  generalize character.val.toNat = value at valid ⊢
  simp only
  split
  · rename_i small
    have announces : lead value = some (value, []) := if_pos (Nat.lt_succ_of_le small)
    rw [List.singleton_append, decode_lead announces (by omega), follow]
  · split
    · exact decode_two (by omega) (by omega)
    · split
      · exact decode_three (by omega) (by omega) (by omega)
      · exact decode_four (by omega) (by omega)

/-- A text is decoded from its encoding. -/
theorem decode?_encode (text : Text) : decode? (encode text) = some text := by
  have decoded : decode (encode text) = text.map some := by
    induction text with
    | nil =>
        rw [encode, List.flatMap_nil, decode]
        rfl
    | cons character text induction =>
        rw [encode, List.flatMap_cons, decode_character, ← encode, induction, List.map_cons]
  rw [decode?, decoded]
  clear decoded
  induction text with
  | nil => rfl
  | cons character text induction =>
      rw [List.map_cons, List.mapM_cons, induction]
      rfl

end DumpLens.Utf8
