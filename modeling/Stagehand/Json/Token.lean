import Stagehand.FileTree.Basic

/-! # The tokens of a JSON text

A JSON text is a sequence of tokens with blanks between them.  Tokens keep the bytes they were
written with: a string is checked for its shape only, and what its bytes say is read later, where it
is wanted.
-/

set_option autoImplicit false

namespace Stagehand.Json

/-- A token.  Numbers and strings keep their bytes, a string without its quotes. -/
inductive Token where
  | openBrace
  | closeBrace
  | openBracket
  | closeBracket
  | colon
  | comma
  | null
  | boolean (value : Bool)
  | number (lexeme : Bytes)
  | text (raw : Bytes)
deriving DecidableEq, Inhabited, Repr

/-- Space, tab, line feed and carriage return may stand between tokens. -/
def isSpace (b : UInt8) : Bool :=
  b = 0x20 || b = 0x09 || b = 0x0A || b = 0x0D

def isDigit (b : UInt8) : Bool :=
  0x30 ≤ b && b ≤ 0x39

def hexValue? (b : UInt8) : Option Nat :=
  if isDigit b then some (b.toNat - 0x30)
  else if 0x41 ≤ b && b ≤ 0x46 then some (b.toNat - 0x41 + 10)
  else if 0x61 ≤ b && b ≤ 0x66 then some (b.toNat - 0x61 + 10)
  else none

def hexUnit? (a b c d : UInt8) : Option Nat :=
  match hexValue? a, hexValue? b, hexValue? c, hexValue? d with
  | some p, some q, some r, some s => some (((p * 16 + q) * 16 + r) * 16 + s)
  | _, _, _, _ => none

/-- What the letter after a backslash stands for. -/
def escaped? (b : UInt8) : Option UInt8 :=
  if b = 0x22 || b = 0x5C || b = 0x2F then some b
  else if b = 0x62 then some 0x08
  else if b = 0x66 then some 0x0C
  else if b = 0x6E then some 0x0A
  else if b = 0x72 then some 0x0D
  else if b = 0x74 then some 0x09
  else none

/-- The bytes of a string up to its closing quote, and what follows the quote.  Controls are refused,
and a backslash has to start an escape. -/
def stringRest : Bytes → Option (Bytes × Bytes)
  | [] => none
  | 0x22 :: rest => some ([], rest)
  | 0x5C :: 0x75 :: a :: b :: c :: d :: rest =>
      match hexUnit? a b c d, stringRest rest with
      | some _, some (raw, left) => some (0x5C :: 0x75 :: a :: b :: c :: d :: raw, left)
      | _, _ => none
  | 0x5C :: letter :: rest =>
      match escaped? letter, stringRest rest with
      | some _, some (raw, left) => some (0x5C :: letter :: raw, left)
      | _, _ => none
  | b :: rest =>
      if b < 0x20 ∨ b = 0x5C then none
      else (stringRest rest).map fun found => (b :: found.1, found.2)

def digits? (bytes : Bytes) : Option (Bytes × Bytes) :=
  match bytes.span isDigit with
  | ([], _) => none
  | found => some found

/-- A whole number: a zero, or digits that do not start with one. -/
def whole? : Bytes → Option (Bytes × Bytes)
  | 0x30 :: rest => some ([0x30], rest)
  | bytes => digits? bytes

/-- The decimals of a number, if a point stands at the front. -/
def fraction? : Bytes → Option (Bytes × Bytes)
  | 0x2E :: rest => (digits? rest).map fun found => (0x2E :: found.1, found.2)
  | bytes => some ([], bytes)

def sign : Bytes → Bytes × Bytes
  | 0x2B :: rest => ([0x2B], rest)
  | 0x2D :: rest => ([0x2D], rest)
  | bytes => ([], bytes)

/-- The exponent of a number, if its letter stands at the front. -/
def exponent? : Bytes → Option (Bytes × Bytes)
  | [] => some ([], [])
  | b :: rest =>
      if b = 0x65 ∨ b = 0x45 then
        let (mark, digits) := sign rest
        (digits? digits).map fun found => (b :: mark ++ found.1, found.2)
      else some ([], b :: rest)

def unsigned? (bytes : Bytes) : Option (Bytes × Bytes) := do
  let (whole, afterWhole) ← whole? bytes
  let (fraction, afterFraction) ← fraction? afterWhole
  let (exponent, rest) ← exponent? afterFraction
  some (whole ++ fraction ++ exponent, rest)

def number? : Bytes → Option (Bytes × Bytes)
  | 0x2D :: rest => (unsigned? rest).map fun found => (0x2D :: found.1, found.2)
  | bytes => unsigned? bytes

/-- The token at the front and what follows it.  No blank may stand before it. -/
def nextToken? : Bytes → Option (Token × Bytes)
  | [] => none
  | 0x7B :: rest => some (.openBrace, rest)
  | 0x7D :: rest => some (.closeBrace, rest)
  | 0x5B :: rest => some (.openBracket, rest)
  | 0x5D :: rest => some (.closeBracket, rest)
  | 0x3A :: rest => some (.colon, rest)
  | 0x2C :: rest => some (.comma, rest)
  | 0x22 :: rest => (stringRest rest).map fun found => (.text found.1, found.2)
  | 0x6E :: 0x75 :: 0x6C :: 0x6C :: rest => some (.null, rest)
  | 0x74 :: 0x72 :: 0x75 :: 0x65 :: rest => some (.boolean true, rest)
  | 0x66 :: 0x61 :: 0x6C :: 0x73 :: 0x65 :: rest => some (.boolean false, rest)
  | bytes => (number? bytes).map fun found => (.number found.1, found.2)

/-- At most `bound` tokens and blanks, which have to be the whole text. -/
def tokensWithin : Nat → Bytes → Option (List Token)
  | _, [] => some []
  | 0, _ :: _ => none
  | bound + 1, b :: rest =>
      if isSpace b then tokensWithin bound rest
      else
        match nextToken? (b :: rest) with
        | none => none
        | some (token, left) => (tokensWithin bound left).map (token :: ·)

/-- The tokens of a text.  Each takes a byte at least, so the length of the text is enough. -/
def tokens? (text : Bytes) : Option (List Token) :=
  tokensWithin text.length text

end Stagehand.Json
