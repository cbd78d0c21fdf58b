/-! # Reading a YAML text

A cursor is a place in a text: the characters ahead, and how far it has come in bytes, lines and
columns of one character each.  Five characters end a line, and a carriage return with a line feed
behind it ends one line, not two.
-/

set_option autoImplicit false

namespace Stagehand.Yaml

/-- A character that a text may contain at all. -/
def isAllowed (c : Char) : Bool :=
  c = '\t' || c = '\n' || c = '\r' || (0x20 ≤ c.toNat && c.toNat ≤ 0x7E) || c.toNat = 0x85 ||
    (0xA0 ≤ c.toNat && c.toNat ≤ 0xFFFD) || 0x10000 ≤ c.toNat

def isBlank (c : Char) : Bool :=
  c = ' ' || c = '\t'

def isBreak (c : Char) : Bool :=
  c = '\n' || c = '\r' || c.toNat = 0x85 || c.toNat = 0x2028 || c.toNat = 0x2029

/-- A character of a name: an ASCII letter or digit, a hyphen or an underscore. -/
def isNameChar (c : Char) : Bool :=
  c.isAlphanum || c = '-' || c = '_'

/-- The bytes that characters take in the text. -/
def encodedSize (chars : List Char) : Nat :=
  chars.foldl (fun size c => size + c.utf8Size) 0

/-- A place in a text. -/
structure Cursor where
  rest : List Char
  bytes : Nat := 0
  line : Nat := 0
  column : Nat := 0
deriving DecidableEq, Inhabited, Repr

namespace Cursor

def peek? (cursor : Cursor) : Option Char := cursor.rest.head?

def peekAt? (cursor : Cursor) (distance : Nat) : Option Char := cursor.rest[distance]?

/-- A blank, the end of a line or the end of the text is some places ahead. -/
def isGapAt (cursor : Cursor) (distance : Nat) : Bool :=
  match cursor.peekAt? distance with
  | none => true
  | some c => isBlank c || isBreak c

/-- The end of a line or of the text is ahead. -/
def atLineEnd (cursor : Cursor) : Bool :=
  match cursor.peek? with
  | none => true
  | some c => isBreak c

def advance (cursor : Cursor) (count : Nat) : Cursor :=
  { cursor with
    rest := cursor.rest.drop count
    bytes := cursor.bytes + encodedSize (cursor.rest.take count)
    column := cursor.column + count }

/-- The characters ahead that satisfy a test, and the place after them.  Line ends must not
satisfy it. -/
def span (cursor : Cursor) (test : Char → Bool) : List Char × Cursor :=
  let found := cursor.rest.takeWhile test
  (found, cursor.advance found.length)

/-- The place after the characters ahead that satisfy a test. -/
def skipWhile (cursor : Cursor) (test : Char → Bool) : Cursor :=
  (cursor.span test).2

def nextLine (cursor : Cursor) : Cursor :=
  let width :=
    match cursor.rest with
    | '\r' :: '\n' :: _ => 2
    | _ => 1
  { rest := cursor.rest.drop width
    bytes := cursor.bytes + encodedSize (cursor.rest.take width)
    line := cursor.line + 1
    column := 0 }

def restOfLine (cursor : Cursor) : List Char × Cursor :=
  cursor.span fun c => !isBreak c

/-- Three equal characters that mark the bounds of a document, alone at the start of a line. -/
def atMark (cursor : Cursor) (c : Char) : Bool :=
  cursor.column = 0 && [c, c, c].isPrefixOf cursor.rest && cursor.isGapAt 3

def atDocumentMark (cursor : Cursor) : Bool :=
  cursor.atMark '-' || cursor.atMark '.'

end Cursor

/-- What a line end stands for in a scalar: a line feed, or itself if it separates paragraphs. -/
def breakText (c : Char) : Char :=
  if c.toNat = 0x2028 ∨ c.toNat = 0x2029 then c else '\n'

end Stagehand.Yaml
