import Mathlib.Data.List.Basic
import Stagehand.Text.Decoded

/-! # The bytes of a text

A text is encoded character by character.  The first byte of a character is none of those that go on
with one, so bytes can be cut into characters in one way only.  An ASCII character is the one byte of
its code, and every byte of another one lies above that range.
-/

set_option autoImplicit false

namespace Stagehand.Text

/-- What holds of the bytes one by one holds of every byte. -/
theorem forall_byte {property : UInt8 → Prop} (every : ∀ n < 256, property (UInt8.ofNat n))
    (b : UInt8) : property b := by
  have this := every b.toNat b.toNat_lt
  rwa [UInt8.ofNat_toNat] at this

/-! ## One character -/

theorem encodeChar_of_ascii {c : Char} (ascii : c.toNat < 0x80) :
    String.utf8EncodeChar c = [UInt8.ofNat c.toNat] := by
  have small : c.val.toNat ≤ 127 := Nat.lt_succ_iff.mp ascii
  rw [String.utf8EncodeChar.eq_1, if_pos small]
  rfl

theorem le_of_mem_encodeChar {c : Char} (beyond : 0x80 ≤ c.toNat) {b : UInt8}
    (member : b ∈ String.utf8EncodeChar c) : 0x80 ≤ b := by
  have large : ¬ c.val.toNat ≤ 127 := Nat.not_le.mpr beyond
  rw [String.utf8EncodeChar.eq_1, if_neg large] at member
  rw [UInt8.le_iff_toNat_le]
  split at member
  · simp only [List.mem_cons, List.not_mem_nil, or_false] at member
    rcases member with rfl | rfl <;> simp only [UInt8.toNat_ofNat'] <;> simp <;> omega
  · split at member
    · simp only [List.mem_cons, List.not_mem_nil, or_false] at member
      rcases member with rfl | rfl | rfl <;> simp only [UInt8.toNat_ofNat'] <;> simp <;> omega
    · simp only [List.mem_cons, List.not_mem_nil, or_false] at member
      rcases member with rfl | rfl | rfl | rfl <;> simp only [UInt8.toNat_ofNat'] <;> simp <;> omega

theorem encodeChar_eq_cons (c : Char) :
    ∃ first others, String.utf8EncodeChar c = first :: others ∧ first.IsUTF8FirstByte ∧
      ∀ b ∈ others, ¬ b.IsUTF8FirstByte := by
  obtain ⟨first, others, split⟩ := List.exists_cons_of_ne_nil (@String.utf8EncodeChar_ne_nil c)
  refine ⟨first, others, split, ?_, ?_⟩
  · have leads := @UInt8.isUTF8FirstByte_getElem_zero_utf8EncodeChar c
    simpa only [split, List.getElem_cons_zero] using leads
  · intro b member leads
    obtain ⟨i, bound, rfl⟩ := List.getElem_of_mem member
    have within : i + 1 < (String.utf8EncodeChar c).length := by
      simpa only [split, List.length_cons, Nat.add_lt_add_iff_right] using bound
    have only := @UInt8.isUTF8FirstByte_getElem_utf8EncodeChar c (i + 1) within
    simp only [split, List.getElem_cons_succ] at only
    exact absurd (only.mp leads) (Nat.succ_ne_zero i)

/-- Bytes start with at most one character. -/
theorem encodeChar_append_inj {c d : Char} {more rest : List UInt8}
    (same : String.utf8EncodeChar c ++ more = String.utf8EncodeChar d ++ rest) :
    c = d ∧ more = rest := by
  have read (character : Char) (after : List UInt8) :
      (String.utf8EncodeChar character ++ after).toByteArray.utf8DecodeChar? 0 = some character := by
    rw [List.toByteArray_append]
    exact ByteArray.utf8DecodeChar?_utf8EncodeChar_append
  have first := read c more
  rw [same, read d rest] at first
  cases Option.some.inj first
  exact ⟨rfl, List.append_cancel_left same⟩

/-! ## A text -/

theorem encode_eq (text : String) : encode text = text.toList.flatMap String.utf8EncodeChar := by
  unfold encode
  rw [String.toUTF8_eq_toByteArray, ← String.utf8Encode_toList]
  simp [List.utf8Encode]

theorem encode_ofList (characters : List Char) :
    encode (String.ofList characters) = characters.flatMap String.utf8EncodeChar := by
  rw [encode_eq, String.toList_ofList]

/-- Bytes are read as a text exactly if they are the bytes of that text. -/
theorem decode?_eq_some_iff {bytes : List UInt8} {text : String} :
    decode? bytes = some text ↔ bytes = encode text := by
  constructor
  · intro read
    unfold decode? String.fromUTF8? at read
    split at read
    · cases Option.some.inj read
      simp [encode, String.fromUTF8]
    · cases read
  · rintro rfl
    exact decode?_encode text

end Stagehand.Text
