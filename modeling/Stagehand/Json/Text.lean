import Stagehand.Json.Token
import Stagehand.Text.Decoded

/-! # What a JSON string says

The bytes of a string denote text once its escapes are resolved.  A character beyond the basic plane
may be written as a pair of escapes; half a pair denotes nothing, and neither do bytes that encode no
character.
-/

set_option autoImplicit false

namespace Stagehand.Json

def codeBytes (code : Nat) : Bytes :=
  String.utf8EncodeChar (Char.ofNat code)

/-- The code point that a pair of surrogates stands for. -/
def pairCode (high low : Nat) : Nat :=
  0x10000 + (high - 0xD800) * 0x400 + (low - 0xDC00)

/-- The bytes of a string with its escapes resolved. -/
def resolve? : Bytes → Option Bytes
  | [] => some []
  | 0x5C :: 0x75 :: a :: b :: c :: d :: 0x5C :: 0x75 :: e :: f :: g :: h :: rest =>
      match hexUnit? a b c d with
      | none => none
      | some unit =>
          if 0xD800 ≤ unit ∧ unit < 0xDC00 then
            match hexUnit? e f g h with
            | none => none
            | some low =>
                if 0xDC00 ≤ low ∧ low < 0xE000 then
                  (resolve? rest).map (codeBytes (pairCode unit low) ++ ·)
                else none
          else if 0xDC00 ≤ unit ∧ unit < 0xE000 then none
          else
            (resolve? (0x5C :: 0x75 :: e :: f :: g :: h :: rest)).map (codeBytes unit ++ ·)
  | 0x5C :: 0x75 :: a :: b :: c :: d :: rest =>
      match hexUnit? a b c d with
      | none => none
      | some unit =>
          if 0xD800 ≤ unit ∧ unit < 0xE000 then none
          else (resolve? rest).map (codeBytes unit ++ ·)
  | 0x5C :: letter :: rest =>
      match escaped? letter with
      | none => none
      | some b => (resolve? rest).map (b :: ·)
  | b :: rest => (resolve? rest).map (b :: ·)

def textOf? (raw : Bytes) : Option String :=
  (resolve? raw).bind Text.decode?

end Stagehand.Json
