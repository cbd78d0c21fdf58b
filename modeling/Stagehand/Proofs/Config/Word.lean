import Mathlib.Data.List.Basic
import Stagehand.Config.File

/-! # Flags and numbers in a configuration

A flag and a number of sixteen bits are read back from the way they are printed.  A printed number has
no needless zero in front, which would make it a number in another base, or none.
-/

set_option autoImplicit false

namespace Stagehand.Config

theorem flagOf?_toString (flag : Bool) : flagOf? (toString flag) = some flag := by
  cases flag <;> decide

/-! ## Numbers -/

theorem digit?_of_isDigit {c : Char} (digit : c.isDigit = true) :
    digit? 10 c = some (c.toNat - '0'.toNat) := by
  have small : c.toNat - '0'.toNat < 10 := by
    simp only [Char.isDigit, Bool.and_eq_true, decide_eq_true_eq, UInt32.le_iff_toNat_le] at digit
    have high : c.toNat ≤ '9'.toNat := digit.2
    have value : '9'.toNat - '0'.toNat = 9 := rfl
    omega
  simp only [digit?, Text.hexValue?, if_pos digit, Option.bind_some, if_pos small]

theorem foldlM_digit? {digits : List Char} (each : ∀ c ∈ digits, c.isDigit = true) (value : Nat) :
    digits.foldlM (fun value c => (digit? 10 c).map (value * 10 + ·)) value =
      some (Nat.ofDigitChars 10 digits value) := by
  induction digits generalizing value with
  | nil => rfl
  | cons c others ih =>
      obtain ⟨first, later⟩ := List.forall_mem_cons.mp each
      rw [List.foldlM_cons, digit?_of_isDigit first, Nat.ofDigitChars_cons, Nat.mul_comm 10 value]
      exact ih later _

/-- Only the zero itself is printed with a zero in front. -/
theorem head_toDigits {n : Nat} (positive : 0 < n) :
    (Nat.toDigits 10 n).head? ≠ some '0' := by
  induction n using Nat.strongRecOn with
  | _ n ih =>
      by_cases small : n < 10
      · have digits : ∀ d < 10, 0 < d → [d.digitChar].head? ≠ some '0' := by decide
        rw [Nat.toDigits_of_lt_base small]
        exact digits n small positive
      · rw [Nat.toDigits_of_base_le (by decide) (Nat.le_of_not_lt small),
          List.head?_append_of_ne_nil _ Nat.toDigits_ne_nil]
        exact ih (n / 10) (by omega) (by omega)

theorem number?_toDigits (n : Nat) : number? (Nat.toDigits 10 n) = some n := by
  have each : ∀ c ∈ Nat.toDigits 10 n, c.isDigit = true := fun c member =>
    Nat.isDigit_of_mem_toDigits (by decide) (by decide) member
  have value : digits? 10 (Nat.toDigits 10 n) = some n := by
    have read := foldlM_digit? each 0
    rw [Nat.ofDigitChars_ten_toDigits] at read
    rw [digits?]
    · exact read
    · exact Nat.toDigits_ne_nil
  rcases Nat.eq_zero_or_pos n with rfl | positive
  · decide
  · have leads := head_toDigits positive
    obtain ⟨c, others, split⟩ := List.exists_cons_of_ne_nil (@Nat.toDigits_ne_nil n 10)
    rw [split] at leads each value ⊢
    have sign : c ≠ '+' := by
      rintro rfl
      exact absurd (each _ List.mem_cons_self) (by decide)
    have zero : c ≠ '0' := by simpa using leads
    have plain : number? (c :: others) = unsigned? (c :: others) := by
      unfold number?
      split
      · rename_i same
        exact absurd (List.cons.inj same).1 sign
      · rfl
    rw [plain]
    unfold unsigned?
    split
    case h_5 => exact value
    all_goals rename_i same; exact absurd (List.cons.inj same).1 zero

theorem wordOf?_toString (word : UInt16) : wordOf? (toString word) = some word := by
  have printed : (toString word).toList = Nat.toDigits 10 word.toNat := Nat.toList_repr
  rw [wordOf?, printed, number?_toDigits, Option.bind_some, if_pos word.toNat_lt]
  exact congrArg some UInt16.ofNat_toNat

end Stagehand.Config
