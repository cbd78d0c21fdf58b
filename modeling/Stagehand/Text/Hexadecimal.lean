/-! # Hexadecimal numbers

A hexadecimal digit is read in either case and written in lower case; a number is written without
leading zeros.
-/

set_option autoImplicit false

namespace Stagehand.Text

def hexValue? (c : Char) : Option Nat :=
  if c.isDigit then some (c.toNat - '0'.toNat)
  else if 'a' ≤ c ∧ c ≤ 'f' then some (c.toNat - 'a'.toNat + 10)
  else if 'A' ≤ c ∧ c ≤ 'F' then some (c.toNat - 'A'.toNat + 10)
  else none

def hexNumber? (digits : List Char) : Option Nat :=
  digits.foldlM (fun value c => (hexValue? c).map (value * 16 + ·)) 0

/-- A code point in lower-case hexadecimal without leading zeros. -/
def hexCode (code : Nat) : String :=
  String.ofList (Nat.toDigits 16 code)

end Stagehand.Text
