import Stagehand.Json.Text
import Stagehand.Json.Value

/-! # What a JSON text is

A value is written as a sequence of tokens, each spelled by its rule, with blanks anywhere between
them.  Strings are told apart from what they say: a string is any run of bytes with its escapes in
order, and the text that it spells is read character by character.
-/

set_option autoImplicit false

namespace Stagehand.Json

/-! ## Numbers -/

/-- One digit or more. -/
def Digits (bytes : Bytes) : Prop :=
  bytes ≠ [] ∧ ∀ b ∈ bytes, isDigit b = true

inductive Whole : Bytes → Prop where
  | zero : Whole [0x30]
  | digits {bytes : Bytes} : Digits bytes → bytes.head? ≠ some 0x30 → Whole bytes

inductive Fraction : Bytes → Prop where
  | none : Fraction []
  | point {digits : Bytes} : Digits digits → Fraction (0x2E :: digits)

/-- What may stand between the letter of an exponent and its digits. -/
def Sign (mark : Bytes) : Prop :=
  mark = [] ∨ mark = [0x2B] ∨ mark = [0x2D]

inductive Exponent : Bytes → Prop where
  | none : Exponent []
  | mark {letter : UInt8} {sign digits : Bytes} : letter = 0x65 ∨ letter = 0x45 → Sign sign →
      Digits digits → Exponent (letter :: (sign ++ digits))

inductive Unsigned : Bytes → Prop where
  | parts {whole fraction exponent : Bytes} : Whole whole → Fraction fraction →
      Exponent exponent → Unsigned (whole ++ fraction ++ exponent)

inductive Number : Bytes → Prop where
  | unsigned {lexeme : Bytes} : Unsigned lexeme → Number lexeme
  | negative {lexeme : Bytes} : Unsigned lexeme → Number (0x2D :: lexeme)

/-! ## Strings -/

/-- The bytes between the quotes of a string. -/
inductive Quotable : Bytes → Prop where
  | nil : Quotable []
  | plain {b : UInt8} {rest : Bytes} : 0x20 ≤ b → b ≠ 0x22 → b ≠ 0x5C → Quotable rest →
      Quotable (b :: rest)
  | escape {letter b : UInt8} {rest : Bytes} : escaped? letter = some b → Quotable rest →
      Quotable (0x5C :: letter :: rest)
  | unit {a b c d : UInt8} {unit : Nat} {rest : Bytes} : hexUnit? a b c d = some unit →
      Quotable rest → Quotable (0x5C :: 0x75 :: a :: b :: c :: d :: rest)

/-- A character spelled by an escape: by a letter, by its code, or, beyond the basic plane, by the
codes of a pair of surrogates. -/
inductive Escape : Bytes → Char → Prop where
  | letter {letter b : UInt8} : escaped? letter = some b →
      Escape [0x5C, letter] (Char.ofNat b.toNat)
  | unit {a b c d : UInt8} {character : Char} : hexUnit? a b c d = some character.toNat →
      Escape [0x5C, 0x75, a, b, c, d] character
  | pair {a b c d e f g h : UInt8} {high low : Nat} {character : Char} :
      hexUnit? a b c d = some high → hexUnit? e f g h = some low → 0xD800 ≤ high ∧ high < 0xDC00 →
      0xDC00 ≤ low ∧ low < 0xE000 → character.toNat = pairCode high low →
      Escape [0x5C, 0x75, a, b, c, d, 0x5C, 0x75, e, f, g, h] character

/-- The bytes between the quotes spell these characters, each as itself or by an escape. -/
inductive Spells : Bytes → List Char → Prop where
  | nil : Spells [] []
  | plain {c : Char} {raw : Bytes} {text : List Char} : 0x20 ≤ c.toNat → c ≠ '"' → c ≠ '\\' →
      Spells raw text → Spells (String.utf8EncodeChar c ++ raw) (c :: text)
  | escape {mark : Bytes} {c : Char} {raw : Bytes} {text : List Char} : Escape mark c →
      Spells raw text → Spells (mark ++ raw) (c :: text)

/-! ## Tokens -/

namespace Token

/-- The bytes that a token is written with. -/
def bytes : Token → Bytes
  | openBrace => [0x7B]
  | closeBrace => [0x7D]
  | openBracket => [0x5B]
  | closeBracket => [0x5D]
  | colon => [0x3A]
  | comma => [0x2C]
  | null => [0x6E, 0x75, 0x6C, 0x6C]
  | boolean true => [0x74, 0x72, 0x75, 0x65]
  | boolean false => [0x66, 0x61, 0x6C, 0x73, 0x65]
  | number lexeme => lexeme
  | text raw => 0x22 :: (raw ++ [0x22])

/-- What a token keeps of its spelling keeps to the rule. -/
def Spelled : Token → Prop
  | number lexeme => Number lexeme
  | text raw => Quotable raw
  | _ => True

end Token

/-- A text that consists of these tokens, with blanks between them or none. -/
inductive Written : List Token → Bytes → Prop where
  | nil : Written [] []
  | blank {tokens : List Token} {b : UInt8} {rest : Bytes} : isSpace b = true →
      Written tokens rest → Written tokens (b :: rest)
  | token {token : Token} {others : List Token} {rest : Bytes} : token.Spelled →
      Written others rest → Written (token :: others) (token.bytes ++ rest)

/-! ## Values -/

namespace Value

mutual

/-- The tokens that a value is written with. -/
def tokens : Value → List Token
  | null => [.null]
  | boolean b => [.boolean b]
  | number lexeme => [.number lexeme]
  | text raw => [.text raw]
  | array items => .openBracket :: (itemTokens items ++ [.closeBracket])
  | object members => .openBrace :: (memberTokens members ++ [.closeBrace])

/-- The items of an array with a comma between each two. -/
def itemTokens : List Value → List Token
  | [] => []
  | [item] => item.tokens
  | item :: next :: others => item.tokens ++ .comma :: itemTokens (next :: others)

/-- The members of an object with a comma between each two. -/
def memberTokens : List (Bytes × Value) → List Token
  | [] => []
  | [(key, value)] => .text key :: .colon :: value.tokens
  | (key, value) :: next :: others =>
      .text key :: .colon :: (value.tokens ++ .comma :: memberTokens (next :: others))

end

/-- The text is a JSON text of the value.  Of the bytes in a string only its escapes and its end are
looked at. -/
def IsText (value : Value) (text : Bytes) : Prop :=
  Written value.tokens text

end Value
end Stagehand.Json
