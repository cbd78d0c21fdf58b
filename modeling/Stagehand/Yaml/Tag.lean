import Stagehand.Text.Hexadecimal
import Stagehand.Yaml.Cursor

/-! # Names, tags and directives

Nodes can carry an anchor and a tag, and directives before a document can give short handles to tag
names.  A tag is spelled out between angle brackets or made of a handle and a suffix, in which
percent codes stand for the bytes of a character.
-/

set_option autoImplicit false

namespace Stagehand.Yaml

/-- The name of an anchor or alias after its mark, which a gap or one of a few marks has to end. -/
def anchorName (cursor : Cursor) : Option (List Char × Cursor) :=
  let (name, after) := cursor.span isNameChar
  let ended :=
    after.isGapAt 0 || (after.peek?.map fun c =>
      c = '?' || c = ':' || c = ',' || c = ']' || c = '}' || c = '%' || c = '@' || c = '\x60').getD false
  if name = [] ∨ !ended then none else some (name, after)

/-- A character of a tag's name as it is; between angle brackets there are three more. -/
def isTagChar (verbatim : Bool) (c : Char) : Bool :=
  isNameChar c || ";/?:@&=+$.!~*'()".toList.contains c ||
    (verbatim && (c = ',' || c = '[' || c = ']'))

/-- The byte of a percent code. -/
def percentByte? : List Char → Option Nat
  | '%' :: high :: low :: _ =>
      match Text.hexValue? high, Text.hexValue? low with
      | some h, some l => some (h * 16 + l)
      | _, _ => none
  | _ => none

/-- The number of bytes that a character takes, by its first byte. -/
def encodedWidth? (byte : Nat) : Option Nat :=
  if byte < 0x80 then some 1
  else if 0xC0 ≤ byte ∧ byte < 0xE0 then some 2
  else if 0xE0 ≤ byte ∧ byte < 0xF0 then some 3
  else if 0xF0 ≤ byte ∧ byte < 0xF8 then some 4
  else none

/-- Percent codes of bytes that continue a character. -/
def continuationCodes : Nat → Cursor → Option Cursor
  | 0, cursor => some cursor
  | count + 1, cursor =>
      match percentByte? cursor.rest with
      | none => none
      | some byte =>
          if 0x80 ≤ byte ∧ byte < 0xC0 then continuationCodes count (cursor.advance 3) else none

/-- The percent codes of one character.  Only characters of one byte are told apart. -/
def percentChar (cursor : Cursor) : Option (Char × Cursor) :=
  match percentByte? cursor.rest with
  | none => none
  | some byte =>
      match encodedWidth? byte with
      | none => none
      | some width =>
          (continuationCodes (width - 1) (cursor.advance 3)).map fun after =>
            (if width = 1 then Char.ofNat byte else '\uFFFD', after)

/-- The name of a tag, of at most `bound` characters. -/
def tagNameWithin (verbatim : Bool) : Nat → Cursor → Option (List Char × Cursor)
  | 0, _ => none
  | bound + 1, cursor =>
      match cursor.peek? with
      | none => some ([], cursor)
      | some c =>
          if c = '%' then
            (percentChar cursor).bind fun found =>
              (tagNameWithin verbatim bound found.2).map fun later =>
                (found.1 :: later.1, later.2)
          else if isTagChar verbatim c then
            (tagNameWithin verbatim bound (cursor.advance 1)).map fun later =>
              (c :: later.1, later.2)
          else some ([], cursor)

def tagName (verbatim : Bool) (cursor : Cursor) : Option (List Char × Cursor) :=
  tagNameWithin verbatim (cursor.rest.length + 1) cursor

/-- The name of a tag, which must not be empty. -/
def tagName? (verbatim : Bool) (cursor : Cursor) : Option (List Char × Cursor) :=
  (tagName verbatim cursor).bind fun found => if found.1 = [] then none else some found

/-- The part of a name that counts: a NUL, which only a percent code can write, ends it. -/
def untilNul (name : List Char) : List Char :=
  name.takeWhile (· ≠ '\x00')

/-- A tag's handle: an exclamation mark, a name, and another mark if there is one. -/
def tagHandle (cursor : Cursor) : Option (List Char × Cursor) :=
  if cursor.peek? ≠ some '!' then none
  else
    let (name, after) := (cursor.advance 1).span isNameChar
    if after.peek? = some '!' then some ('!' :: name ++ ['!'], after.advance 1)
    else some ('!' :: name, after)

def isFullHandle (handle : List Char) : Bool :=
  2 ≤ handle.length && handle.getLast? = some '!'

/-- A tag as a handle and a suffix.  Without a handle the suffix is the name itself. -/
def tagParts (cursor : Cursor) : Option ((List Char × List Char) × Cursor) :=
  if cursor.peekAt? 1 = some '<' then
    (tagName? true (cursor.advance 2)).bind fun found =>
      if found.2.peek? = some '>' then some (([], untilNul found.1), found.2.advance 1)
      else none
  else
    (tagHandle cursor).bind fun found =>
      if isFullHandle found.1 then
        (tagName? false found.2).map fun suffix => ((found.1, untilNul suffix.1), suffix.2)
      else
        (tagName false found.2).map fun later =>
          let suffix := untilNul (found.1.drop 1 ++ later.1)
          if suffix = [] then (([], ['!']), later.2) else ((['!'], suffix), later.2)

/-- A tag, which a gap has to end, or a comma inside a flow collection. -/
def tag (inFlow : Bool) (cursor : Cursor) : Option ((List Char × List Char) × Cursor) :=
  (tagParts cursor).bind fun found =>
    if found.2.isGapAt 0 || (inFlow && found.2.peek? = some ',') then some found else none

inductive Directive where
  | version (major minor : Nat)
  | tag (handle expansion : List Char)
deriving DecidableEq, Inhabited, Repr

/-- A number of at most nine digits. -/
def versionNumber (cursor : Cursor) : Option (Nat × Cursor) :=
  let (digits, after) := cursor.span Char.isDigit
  if digits = [] ∨ 9 < digits.length then none
  else some (digits.foldl (fun value c => value * 10 + (c.toNat - '0'.toNat)) 0, after)

def versionDirective (cursor : Cursor) : Option (Directive × Cursor) :=
  (versionNumber cursor).bind fun major =>
    if major.2.peek? ≠ some '.' then none
    else
      (versionNumber (major.2.advance 1)).map fun minor =>
        (.version major.1 minor.1, minor.2)

def tagDirective (cursor : Cursor) : Option (Directive × Cursor) :=
  (tagHandle cursor).bind fun handle =>
    if !(handle.1 = ['!'] || isFullHandle handle.1) then none
    else if !(handle.2.peek?.map isBlank).getD false then none
    else
      (tagName? true (handle.2.skipWhile isBlank)).bind fun expansion =>
        if expansion.2.isGapAt 0 then some (.tag handle.1 (untilNul expansion.1), expansion.2)
        else none

/-- A directive after its percent sign, with the rest of its line. -/
def directive (cursor : Cursor) : Option (Directive × Cursor) :=
  let (name, after) := cursor.span isNameChar
  if name = [] ∨ !after.isGapAt 0 then none
  else
    let content := after.skipWhile isBlank
    let found :=
      if name = "YAML".toList then versionDirective content
      else if name = "TAG".toList then tagDirective content
      else none
    found.bind fun directive =>
      let blanks := directive.2.skipWhile isBlank
      let lineEnd := if blanks.peek? = some '#' then blanks.restOfLine.2 else blanks
      if !lineEnd.atLineEnd then none
      else some (directive.1, if lineEnd.peek? = none then lineEnd else lineEnd.nextLine)

end Stagehand.Yaml
