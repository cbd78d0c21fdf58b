import Stagehand.Text.Hexadecimal
import Stagehand.Yaml.Cursor

/-! # Scalars

A scalar is written plainly, between quotes, or as a block of lines.  Line ends inside a plain or
quoted scalar are folded: one of them is a space, and of several the first is dropped.  A block keeps
its lines, or folds those that are not indented further.
-/

set_option autoImplicit false

namespace Stagehand.Yaml

/-! ## Gaps between words -/

/-- Blanks and line ends between two words: the blanks before the first line end, the line ends, and
the place after them. -/
structure Gap where
  blanks : List Char
  breaks : List Char
  after : Cursor
deriving Inhabited, Repr

/-- The gap ahead, of fewer than `bound` characters.  After a line end, no tab may stand left of a
column. -/
def gap (tabColumn : Nat) : Nat → (broken : Bool) → Cursor → Option Gap
  | 0, _, _ => none
  | bound + 1, broken, cursor =>
      match cursor.peek? with
      | none => some ⟨[], [], cursor⟩
      | some c =>
          if isBlank c then
            if broken && c = '\t' && cursor.column < tabColumn then none
            else
              (gap tabColumn bound broken (cursor.advance 1)).map fun gap =>
                if broken then gap else { gap with blanks := c :: gap.blanks }
          else if isBreak c then
            (gap tabColumn bound true cursor.nextLine).map fun gap =>
              { gap with breaks := breakText c :: gap.breaks }
          else some ⟨[], [], cursor⟩

/-- Line ends folded: one is a space, of several the first is dropped. -/
def foldBreaks : List Char → List Char
  | ['\n'] => [' ']
  | '\n' :: others => others
  | breaks => breaks

/-- The gap as it stands in the scalar. -/
def Gap.text (gap : Gap) : List Char :=
  if gap.breaks = [] then gap.blanks else foldBreaks gap.breaks

/-! ## Quoted scalars -/

/-- The character that an escape letter stands for. -/
def escapedChar? (c : Char) : Option Char :=
  match c with
  | '0' => some '\x00'
  | 'a' => some '\x07'
  | 'b' => some '\x08'
  | 't' => some '\t'
  | '\t' => some '\t'
  | 'n' => some '\n'
  | 'v' => some '\x0B'
  | 'f' => some '\x0C'
  | 'r' => some '\r'
  | 'e' => some '\x1B'
  | ' ' => some ' '
  | '"' => some '"'
  | '/' => some '/'
  | '\\' => some '\\'
  | 'N' => some '\u0085'
  | '_' => some '\u00A0'
  | 'L' => some '\u2028'
  | 'P' => some '\u2029'
  | _ => none

/-- The number of digits after an escape letter that introduces a code point. -/
def escapeDigits? (c : Char) : Option Nat :=
  match c with
  | 'x' => some 2
  | 'u' => some 4
  | 'U' => some 8
  | _ => none

/-- The character of an escape, and the place after it, from its letter on. -/
def escape? (cursor : Cursor) : Option (Char × Cursor) :=
  match cursor.peek? with
  | none => none
  | some letter =>
      match escapedChar? letter with
      | some c => some (c, cursor.advance 1)
      | none =>
          match escapeDigits? letter with
          | none => none
          | some count =>
              let digits := (cursor.rest.drop 1).take count
              if digits.length < count then none
              else
                match Text.hexNumber? digits with
                | none => none
                | some code =>
                    if (0xD800 ≤ code ∧ code ≤ 0xDFFF) ∨ 0x10FFFF < code then none
                    else some (Char.ofNat code, cursor.advance (count + 1))

inductive Quote where
  | single
  | double
deriving DecidableEq, Inhabited, Repr

def Quote.char : Quote → Char
  | .single => '\''
  | .double => '"'

def prepend (text : List Char) (found : List Char × Cursor) : List Char × Cursor :=
  (text ++ found.1, found.2)

/-- The text of a quoted scalar after its opening quote, of fewer than `bound` characters, and the
place after the closing one. -/
def quotedRest (quote : Quote) : Nat → Cursor → Option (List Char × Cursor)
  | 0, _ => none
  | bound + 1, cursor =>
      if cursor.atDocumentMark then none
      else
        match cursor.rest with
        | [] => none
        | c :: next =>
            if isBlank c || isBreak c then
              (gap 0 (bound + 1) false cursor).bind fun gap =>
                (quotedRest quote bound gap.after).map (prepend gap.text)
            else if quote = .single ∧ c = '\'' ∧ next.head? = some '\'' then
              (quotedRest quote bound (cursor.advance 2)).map (prepend ['\''])
            else if c = quote.char then some ([], cursor.advance 1)
            else if quote = .double ∧ c = '\\' then
              if (next.head?.map isBreak).getD false then
                (gap 0 (bound + 1) true (cursor.advance 1).nextLine).bind fun gap =>
                  (quotedRest quote bound gap.after).map (prepend gap.breaks)
              else
                (escape? (cursor.advance 1)).bind fun found =>
                  (quotedRest quote bound found.2).map (prepend [found.1])
            else (quotedRest quote bound (cursor.advance 1)).map (prepend [c])

/-- A quoted scalar from its opening quote on, of fewer than `bound` characters. -/
def quoted (quote : Quote) (bound : Nat) (cursor : Cursor) : Option (List Char × Cursor) :=
  quotedRest quote bound (cursor.advance 1)

/-! ## Plain scalars -/

def isFlowMark (c : Char) : Bool :=
  c = ',' || c = '[' || c = ']' || c = '{' || c = '}'

/-- A plain scalar ends here: before a colon with a gap behind it, or before a mark of a flow
collection. -/
def endsPlain (inFlow : Bool) (cursor : Cursor) : Bool :=
  match cursor.peek? with
  | none => true
  | some c => (c = ':' && cursor.isGapAt 1) || (inFlow && isFlowMark c)

/-- Inside a flow collection, a colon and a mark behind it are refused in a plain scalar. -/
def isBadColon (inFlow : Bool) (cursor : Cursor) : Bool :=
  inFlow && cursor.peek? = some ':' &&
    match cursor.peekAt? 1 with
    | none => false
    | some c => isFlowMark c || c = '?'

/-- A plain scalar as far as it was read: its text, the place after it and after the gap that
follows, and whether that gap has a line end. -/
structure Plain where
  text : List Char
  after : Cursor
  broken : Bool
deriving Inhabited, Repr

/-- After a gap, the scalar cannot go on: a document mark, a comment or the end of the text is
ahead, or the line is not indented far enough. -/
def stopsPlain (inFlow : Bool) (indent : Nat) (cursor : Cursor) : Bool :=
  (!inFlow && cursor.column < indent) || cursor.atDocumentMark || cursor.peek? = some '#' ||
    cursor.peek? = none

/-- A plain scalar of fewer than `bound` characters, whose lines have to be indented to a column. -/
def plain (inFlow : Bool) (indent : Nat) : Nat → Cursor → Option Plain
  | 0, _ => none
  | bound + 1, cursor =>
      match cursor.peek? with
      | none => some ⟨[], cursor, false⟩
      | some c =>
          if isBlank c || isBreak c then
            (gap indent (bound + 1) false cursor).bind fun gap =>
              if stopsPlain inFlow indent gap.after then
                some ⟨[], gap.after, gap.breaks ≠ []⟩
              else
                (plain inFlow indent bound gap.after).map fun later =>
                  if later.text = [] then ⟨[], later.after, gap.breaks ≠ []⟩
                  else { later with text := gap.text ++ later.text }
          else if isBadColon inFlow cursor then none
          else if endsPlain inFlow cursor then some ⟨[], cursor, false⟩
          else
            (plain inFlow indent bound (cursor.advance 1)).map fun later =>
              { later with text := c :: later.text }

/-! ## Blocks of lines -/

/-- What becomes of the line ends after a block. -/
inductive Chomping where
  /-- The first one is kept. -/
  | clip
  /-- None is kept. -/
  | strip
  /-- All are kept. -/
  | keep
deriving DecidableEq, Inhabited, Repr

/-- What the head of a block says: the chomping and the indentation, if it gives one. -/
structure BlockHead where
  chomping : Chomping
  indentation : Option Nat
deriving DecidableEq, Inhabited, Repr

def chomping? (c : Char) : Option Chomping :=
  if c = '+' then some .keep else if c = '-' then some .strip else none

/-- The signs at the head of a block, in either order, and the place after them. -/
def blockHead (cursor : Cursor) : Option (BlockHead × Cursor) :=
  match cursor.peek? with
  | none => some (⟨.clip, none⟩, cursor)
  | some c =>
      match chomping? c with
      | some chomping =>
          match cursor.peekAt? 1 with
          | none => some (⟨chomping, none⟩, cursor.advance 1)
          | some d =>
              if d = '0' then none
              else if d.isDigit then
                some (⟨chomping, some (d.toNat - '0'.toNat)⟩, cursor.advance 2)
              else some (⟨chomping, none⟩, cursor.advance 1)
      | none =>
          if c = '0' then none
          else if c.isDigit then
            let indentation := some (c.toNat - '0'.toNat)
            match (cursor.peekAt? 1).bind chomping? with
            | some chomping => some (⟨chomping, indentation⟩, cursor.advance 2)
            | none => some (⟨.clip, indentation⟩, cursor.advance 1)
          else some (⟨.clip, none⟩, cursor)

/-- Empty lines before a line of a block: their line ends, the place after the indentation of that
line, and the widest indentation met. -/
structure Margin where
  breaks : List Char
  after : Cursor
  widest : Nat
deriving Inhabited, Repr

/-- The empty lines ahead, fewer than `bound`, indented to a column or, if none is given, as far as
they are. -/
def margin (indent : Option Nat) : Nat → (widest : Nat) → Cursor → Option Margin
  | 0, _, _ => none
  | bound + 1, widest, cursor =>
      let spaces := (cursor.rest.takeWhile (· = ' ')).length
      let wanted :=
        match indent with
        | none => spaces
        | some column => min spaces (column - cursor.column)
      let here := cursor.advance wanted
      let outside :=
        match indent with
        | none => true
        | some column => here.column < column
      let reached := max widest here.column
      if outside && here.peek? = some '\t' then none
      else
        match here.peek? with
        | none => some ⟨[], here, reached⟩
        | some c =>
            if isBreak c then
              (margin indent bound reached here.nextLine).map fun margin =>
                { margin with breaks := breakText c :: margin.breaks }
            else some ⟨[], here, reached⟩

def lineBreak (cursor : Cursor) : List Char × Cursor :=
  match cursor.peek? with
  | none => ([], cursor)
  | some c => if isBreak c then ([breakText c], cursor.nextLine) else ([], cursor)

/-- What a block holds so far between two lines: the line end of the last line, the empty lines
after it, and whether the last line began with a blank. -/
structure BlockJoint where
  leading : List Char
  trailing : List Char
  blankBefore : Bool
deriving Inhabited, Repr

/-- The joint as it stands in the scalar, before a line. -/
def BlockJoint.text (folded : Bool) (blankAhead : Bool) (joint : BlockJoint) : List Char :=
  if folded && joint.leading.head? = some '\n' && !joint.blankBefore && !blankAhead then
    (if joint.trailing = [] then [' '] else []) ++ joint.trailing
  else joint.leading ++ joint.trailing

/-- The joint as it stands at the end of the scalar. -/
def BlockJoint.tail (chomping : Chomping) (joint : BlockJoint) : List Char :=
  match chomping with
  | .strip => []
  | .clip => joint.leading
  | .keep => joint.leading ++ joint.trailing

def blockLinesWithin (folded : Bool) (chomping : Chomping) (indent : Nat) :
    Nat → BlockJoint → Cursor → Option (List Char × Cursor)
  | 0, _, _ => none
  | bound + 1, joint, cursor =>
      match cursor.peek? with
      | none => some (joint.tail chomping, cursor)
      | some c =>
          if cursor.column ≠ indent then some (joint.tail chomping, cursor)
          else
            let (line, lineEnd) := cursor.restOfLine
            let (leading, after) := lineBreak lineEnd
            (margin (some indent) (bound + 1) 0 after).bind fun next =>
              (blockLinesWithin folded chomping indent bound
                ⟨leading, next.breaks, isBlank c⟩ next.after).map
                  (prepend (joint.text folded (isBlank c) ++ line))

/-- A block from its mark on, inside a collection that is indented to a column, if any is. -/
def block (folded : Bool) (outer : Option Nat) (cursor : Cursor) :
    Option (List Char × Cursor) := do
  let (head, afterHead) ← blockHead (cursor.advance 1)
  let afterBlanks := afterHead.skipWhile isBlank
  let atEnd := if afterBlanks.peek? = some '#' then afterBlanks.restOfLine.2 else afterBlanks
  if !atEnd.atLineEnd then none
  else
    let (_, start) := lineBreak atEnd
    let given := head.indentation.map fun width => (outer.getD 0) + width
    let margin ← margin given (start.rest.length + 1) 0 start
    let indent := given.getD (max margin.widest (max (outer.elim 0 (· + 1)) 1))
    blockLinesWithin folded head.chomping indent (margin.after.rest.length + 1)
      ⟨[], margin.breaks, false⟩ margin.after

end Stagehand.Yaml
