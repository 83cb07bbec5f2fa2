import Mathlib.Data.String.Basic

/-! # The order of bytes

Texts in ascending order of their code points are in ascending order of their
UTF-8 bytes. A character's encoding is no prefix of another's, and its bytes
come in the order of its code point, so the first character that differs
decides for the bytes too.
-/

namespace Scenario.Text

/-- The UTF-8 bytes of a text. -/
def bytes (text : String) : List UInt8 :=
  text.toUTF8.data.toList

theorem bytes_eq (text : String) : bytes text = text.toList.flatMap String.utf8EncodeChar := by
  rw [bytes, String.toUTF8_eq_toByteArray, ← String.utf8Encode_toList, List.utf8Encode,
    List.toList_data_toByteArray]

theorem ofNat_cons_lt {m n : Nat} (first : m < 256) (second : n < 256) {rest other : List UInt8} :
    UInt8.ofNat m :: rest < UInt8.ofNat n :: other ↔ m < n ∨ m = n ∧ rest < other := by
  rw [List.cons_lt_cons_iff, UInt8.ofNat_lt_iff_lt first second]
  have same : UInt8.ofNat m = UInt8.ofNat n ↔ m = n := by
    rw [← UInt8.toNat_inj, UInt8.toNat_ofNat_of_lt' first, UInt8.toNat_ofNat_of_lt' second]
  rw [same]

theorem digit_lt {v w : Nat} (before : v < w) :
    v / 64 < w / 64 ∨ v / 64 = w / 64 ∧ v % 64 < w % 64 := by
  omega

/-- The first digit to base 64 that differs decides which number is below the other. -/
theorem digits_lt {v w : Nat} (before : v < w) (range : w < 0x200000) :
    v / 262144 % 8 < w / 262144 % 8 ∨ v / 262144 % 8 = w / 262144 % 8 ∧
      (v / 4096 % 64 < w / 4096 % 64 ∨ v / 4096 % 64 = w / 4096 % 64 ∧
        (v / 64 % 64 < w / 64 % 64 ∨ v / 64 % 64 = w / 64 % 64 ∧ v % 64 < w % 64)) := by
  have second (n : Nat) : n / 4096 = n / 64 / 64 := by omega
  have first (n : Nat) : n / 262144 = n / 64 / 64 / 64 := by omega
  have top (n : Nat) (below : n < 0x200000) : n / 64 / 64 / 64 % 8 = n / 64 / 64 / 64 :=
    Nat.mod_eq_of_lt (by omega)
  rw [first, first, second, second, top v (by omega), top w range]
  rcases digit_lt before with above | ⟨same, last⟩
  · rcases digit_lt above with above | ⟨same, last⟩
    · rcases digit_lt above with above | ⟨same, last⟩
      · exact .inl above
      · exact .inr ⟨same, .inl last⟩
    · exact .inr ⟨by rw [same], .inr ⟨by rw [same], .inl last⟩⟩
  · exact .inr ⟨by rw [same], .inr ⟨by rw [same], .inr ⟨by rw [same], last⟩⟩⟩

/-- A longer encoding starts with a greater byte, and of two of one length the digits decide,
    whatever follows. -/
theorem encode_lt_encode {c d : Char} (before : c < d) (rest other : List UInt8) :
    String.utf8EncodeChar c ++ rest < String.utf8EncodeChar d ++ other := by
  have point : c.val.toNat < d.val.toNat := before
  have range : d.val.toNat < 0x110000 := by
    rcases d.valid with low | high
    · omega
    · exact high.2
  simp only [String.utf8EncodeChar]
  by_cases long : 0xFFFF < c.val.toNat
  · have digits := digits_lt point (by omega)
    repeat rw [if_neg (by omega)]
    simp (disch := omega) only [List.cons_append, List.nil_append, ofNat_cons_lt,
      Nat.add_lt_add_iff_right, Nat.add_right_cancel_iff]
    tauto
  · split_ifs <;> simp (disch := omega) only [List.cons_append, List.nil_append, ofNat_cons_lt] <;>
      omega

/-- A text before another has its bytes before those of the other. -/
theorem bytes_lt_bytes {text other : String} (before : text < other) :
    bytes text < bytes other := by
  rw [String.lt_iff_toList_lt] at before
  rw [bytes_eq, bytes_eq]
  generalize text.toList = chars at before
  generalize other.toList = others at before
  induction before with
  | @nil c rest =>
      obtain ⟨byte, more, encoded⟩ :=
        List.exists_cons_of_ne_nil (String.utf8EncodeChar_ne_nil (c := c))
      rw [List.flatMap_cons, encoded]
      exact .nil
  | @rel c rest d later first => exact encode_lt_encode first _ _
  | @cons c rest later _ ih => exact List.append_left_lt ih

end Scenario.Text
