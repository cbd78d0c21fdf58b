import Mathlib.Data.List.Induction
import Stagehand.Proofs.Json.Grammar
import Stagehand.Proofs.Text.Encoded
import Stagehand.Request.Body

/-! # Counts

The digits of a number, as they are written without leading zeros, are read back as that number.
Conversely a number of JSON that consists of digits only is written without leading zeros, so there
is one way to write a count.
-/

set_option autoImplicit false

namespace Stagehand.Body

open Json

/-- The digits that a number is written with. -/
def decimals (n : Nat) : Bytes :=
  Text.encode (toString n)

theorem decimals_eq (n : Nat) :
    decimals n = (Nat.toDigits 10 n).map fun c => UInt8.ofNat c.toNat := by
  have single : ∀ c ∈ Nat.toDigits 10 n, String.utf8EncodeChar c = [UInt8.ofNat c.toNat] := by
    intro c member
    have digit := Nat.isDigit_of_mem_toDigits (by decide) (by decide) member
    simp only [Char.isDigit, Bool.and_eq_true, decide_eq_true_eq, ge_iff_le] at digit
    have bound : c.toNat ≤ '9'.toNat := digit.2
    exact Text.encodeChar_of_ascii (Nat.lt_of_le_of_lt bound (by decide))
  rw [decimals, Nat.toString_eq_ofList_toDigits, Text.encode_ofList, List.flatMap_congr single,
    List.map_eq_flatMap]

theorem decimals_of_lt {n : Nat} (small : n < 10) : decimals n = [UInt8.ofNat (48 + n)] := by
  rw [decimals_eq, Nat.toDigits_of_lt_base small, List.map_singleton,
    Nat.toNat_digitChar_of_lt_ten small]

theorem decimals_concat {n d : Nat} (positive : 0 < n) (small : d < 10) :
    decimals (n * 10 + d) = decimals n ++ [UInt8.ofNat (48 + d)] := by
  rw [← decimals_of_lt small, decimals_eq, decimals_eq n, decimals_eq d, ← List.map_append,
    Nat.toDigits_append_toDigits (by decide) positive small, Nat.mul_comm]

theorem decimalValue_concat (front : Bytes) (digit : UInt8) :
    decimalValue (front ++ [digit]) = decimalValue front * 10 + (digit.toNat - 0x30) := by
  simp [decimalValue]

theorem toNat_digit {d : Nat} (small : d < 10) : (UInt8.ofNat (48 + d)).toNat - 0x30 = d := by
  rw [UInt8.toNat_ofNat', Nat.mod_eq_of_lt (by omega)]
  omega

theorem isDigit_digit {d : Nat} (small : d < 10) : isDigit (UInt8.ofNat (48 + d)) = true := by
  simp only [isDigit, Bool.and_eq_true, decide_eq_true_eq, UInt8.le_iff_toNat_le,
    UInt8.toNat_ofNat', Nat.mod_eq_of_lt (show 48 + d < 2 ^ 8 by omega)]
  simp
  omega

theorem decimals_read (n : Nat) :
    (decimals n).all isDigit = true ∧ decimalValue (decimals n) = n := by
  induction n using Nat.strongRecOn with
  | _ n ih =>
      by_cases small : n < 10
      · rw [decimals_of_lt small]
        refine ⟨by simp only [List.all_cons, List.all_nil, isDigit_digit small, Bool.and_true], ?_⟩
        have single := decimalValue_concat [] (UInt8.ofNat (48 + n))
        rw [toNat_digit small] at single
        simpa [decimalValue] using single
      · have last : n % 10 < 10 := Nat.mod_lt n (by decide)
        obtain ⟨digits, value⟩ := ih (n / 10) (by omega)
        have split := decimals_concat (n := n / 10) (by omega) last
        rw [Nat.div_add_mod'] at split
        rw [split, decimalValue_concat, toNat_digit last, value]
        refine ⟨?_, Nat.div_add_mod' n 10⟩
        simp only [List.all_append, digits, List.all_cons, List.all_nil, isDigit_digit last,
          Bool.and_true]

theorem digit_of_isDigit {b : UInt8} (digit : isDigit b = true) :
    b.toNat - 0x30 < 10 ∧ b = UInt8.ofNat (48 + (b.toNat - 0x30)) := by
  simp only [isDigit, Bool.and_eq_true, decide_eq_true_eq, UInt8.le_iff_toNat_le] at digit
  obtain ⟨low, high⟩ := digit
  simp at low high
  refine ⟨by omega, ?_⟩
  rw [Nat.add_sub_cancel' low, UInt8.ofNat_toNat]

/-- Digits that do not start with a zero are the decimals of their value. -/
theorem eq_decimals {digits : Bytes} (proper : Digits digits) (leading : digits.head? ≠ some 0x30) :
    digits = decimals (decimalValue digits) ∧ 0 < decimalValue digits := by
  obtain ⟨nonempty, each⟩ := proper
  -- The value grows by the last digit, and only the first one must not be a zero.
  induction digits using List.reverseRecOn with
  | nil => exact absurd rfl nonempty
  | append_singleton front last ih =>
      obtain ⟨small, same⟩ := digit_of_isDigit (each last (by simp))
      rw [decimalValue_concat]
      by_cases first : front = []
      · subst first
        have zero : decimalValue [] = 0 := rfl
        rw [zero, Nat.zero_mul, Nat.zero_add, decimals_of_lt small, ← same]
        refine ⟨rfl, Nat.pos_of_ne_zero fun none => leading ?_⟩
        rw [none] at same
        rw [same]
        rfl
      · have ahead : front.head? ≠ some 0x30 := by
          rwa [List.head?_append_of_ne_nil _ first] at leading
        obtain ⟨written, positive⟩ := ih ahead first fun b member => each b (by simp [member])
        rw [decimals_concat positive small, ← written, ← same]
        exact ⟨rfl, by omega⟩

theorem eq_decimals_of_whole {lexeme : Bytes} (whole : Whole lexeme) :
    lexeme = decimals (decimalValue lexeme) := by
  cases whole with
  | zero => rfl
  | digits proper leading => exact (eq_decimals proper leading).1

/-- A number without sign, point and exponent is a whole number. -/
theorem whole_of_number {lexeme : Bytes} (number : Number lexeme)
    (digits : lexeme.all isDigit = true) : Whole lexeme := by
  rw [List.all_eq_true] at digits
  cases number with
  | negative => exact absurd (digits 0x2D (by simp)) (by decide)
  | unsigned parts =>
      cases parts with
      | parts whole fraction exponent =>
          cases fraction with
          | point => exact absurd (digits 0x2E (by simp)) (by decide)
          | none =>
              cases exponent with
              | none => simpa using whole
              | @mark letter _ _ either =>
                  have digit := digits letter (by simp)
                  rcases either with rfl | rfl <;> exact absurd digit (by decide)

end Stagehand.Body
