import Stagehand.Yaml.Scalar
import Stagehand.Yaml.Tag
import Stagehand.Yaml.Token

/-! # From a text to its tokens

A text is read from left to right.  Indentation opens and closes block collections.  Whether a
scalar or a flow collection is a key shows only at the colon behind it, so the place of each possible
key is remembered and its token is put in there later; such a key has to fit in one line and in 1024
characters.
-/

set_option autoImplicit false

namespace Stagehand.Yaml

/-- A place where a key may have begun. -/
structure PossibleKey where
  /-- The number of tokens before it. -/
  tokenCount : Nat
  /-- Nothing but a key can stand there. -/
  required : Bool
  place : Cursor
deriving Inhabited, Repr

/-- The longest key without a mark of its own, in bytes. -/
def keyLimit : Nat := 1024

structure Scan where
  cursor : Cursor
  /-- The tokens so far, last first. -/
  tokens : List Token := []
  tokenCount : Nat := 0
  /-- The columns of the open block collections, innermost first. -/
  indents : List Nat := []
  /-- The possible key of each open flow collection, innermost first. -/
  flowKeys : List (Option PossibleKey) := []
  /-- The possible key outside all flow collections. -/
  blockKey : Option PossibleKey := none
  /-- A key without a mark of its own may begin here. -/
  keyAllowed : Bool := true
deriving Inhabited, Repr

namespace Scan

def inFlow (scan : Scan) : Bool := !scan.flowKeys.isEmpty

def indent? (scan : Scan) : Option Nat := scan.indents.head?

/-- The first column to the right of the innermost block collection. -/
def innerColumn (scan : Scan) : Nat := scan.indent?.elim 0 (· + 1)

def possibleKey (scan : Scan) : Option PossibleKey :=
  match scan.flowKeys with
  | [] => scan.blockKey
  | key :: _ => key

def setKey (scan : Scan) (key : Option PossibleKey) : Scan :=
  match scan.flowKeys with
  | [] => { scan with blockKey := key }
  | _ :: outer => { scan with flowKeys := key :: outer }

def emit (scan : Scan) (token : Token) : Scan :=
  { scan with tokens := token :: scan.tokens, tokenCount := scan.tokenCount + 1 }

/-- The scan with a token put in behind the first `count` ones. -/
def insert (scan : Scan) (count : Nat) (token : Token) : Scan :=
  let behind := scan.tokenCount - count
  { scan with
    tokens := scan.tokens.take behind ++ token :: scan.tokens.drop behind
    tokenCount := scan.tokenCount + 1 }

def moveTo (scan : Scan) (cursor : Cursor) : Scan := { scan with cursor := cursor }

def mark (scan : Scan) (width : Nat) (token : Token) : Scan :=
  (scan.moveTo (scan.cursor.advance width)).emit token

def allowKey (scan : Scan) (allowed : Bool) : Scan := { scan with keyAllowed := allowed }

/-- The blanks, comments and line ends ahead skipped, of at most `bound` lines.  A tab is no blank
where a block could begin; a byte order mark may open any line and takes a column of it. -/
def skipGap : Nat → Scan → Scan
  | 0, scan => scan
  | bound + 1, scan =>
      let start :=
        if scan.cursor.column = 0 && scan.cursor.peek? = some '\uFEFF' then scan.cursor.advance 1
        else scan.cursor
      let tabs := scan.inFlow || !scan.keyAllowed
      let blanks := start.skipWhile fun c => c = ' ' || (tabs && c = '\t')
      let lineEnd := if blanks.peek? = some '#' then blanks.restOfLine.2 else blanks
      match lineEnd.peek? with
      | none => scan.moveTo lineEnd
      | some c =>
          if isBreak c then
            skipGap bound
              ((scan.moveTo lineEnd.nextLine).allowKey (scan.keyAllowed || !scan.inFlow))
          else scan.moveTo lineEnd

/-- A possible key that is too far behind to be one: none if it had to be one. -/
def refresh (here : Cursor) : Option PossibleKey → Option (Option PossibleKey)
  | none => some none
  | some key =>
      if key.place.line < here.line || key.place.bytes + keyLimit < here.bytes then
        if key.required then none else some none
      else some (some key)

/-- The scan without the possible keys that are too far behind. -/
def dropStaleKeys (scan : Scan) : Option Scan := do
  let blockKey ← refresh scan.cursor scan.blockKey
  let flowKeys ← scan.flowKeys.mapM (refresh scan.cursor)
  some { scan with blockKey := blockKey, flowKeys := flowKeys }

/-- The possible key given up: none if it had to be one. -/
def removeKey (scan : Scan) : Option Scan :=
  match scan.possibleKey with
  | none => some scan
  | some key => if key.required then none else some (scan.setKey none)

/-- A possible key that begins here. -/
def saveKey (scan : Scan) : Option Scan :=
  if scan.keyAllowed then
    let required := !scan.inFlow && scan.indent? = some scan.cursor.column
    (scan.removeKey).map fun cleared =>
      cleared.setKey (some ⟨scan.tokenCount, required, scan.cursor⟩)
  else some scan

/-- The block collections to the right of a column, innermost first, ended. -/
def endBlocks (isInside : Nat → Bool) : List Nat → Scan → Scan
  | [], scan => { scan with indents := [] }
  | indent :: outer, scan =>
      if isInside indent then endBlocks isInside outer (scan.emit .blockEnd)
      else { scan with indents := indent :: outer }

/-- The block collections to the right of a column ended; none, for the column, ends them all. -/
def unroll (scan : Scan) (column : Option Nat) : Scan :=
  if scan.inFlow then scan
  else endBlocks (fun indent => column.elim true (· < indent)) scan.indents scan

/-- A block collection begun at a column, if it is to the right of the innermost one.  Its token is
put in behind the first `count` ones, if a count is given. -/
def roll (scan : Scan) (column : Nat) (count : Option Nat) (token : Token) : Scan :=
  if scan.inFlow || column < scan.innerColumn then scan
  else
    let opened := { scan with indents := column :: scan.indents }
    match count with
    | none => opened.emit token
    | some place => opened.insert place token

/-! ## Tokens, one kind after the other -/

def fetchEnd (scan : Scan) : Option Scan :=
  ((scan.unroll none).removeKey).map fun ended => (ended.allowKey false).emit .streamEnd

def fetchDirective (scan : Scan) : Option Scan := do
  let ready ← (scan.unroll none).removeKey
  let (found, after) ← directive (ready.cursor.advance 1)
  let token : Token :=
    match found with
    | .version major minor => .versionDirective major minor
    | .tag handle expansion => .tagDirective handle expansion
  some (((ready.allowKey false).moveTo after).emit token)

def fetchDocumentMark (scan : Scan) (token : Token) : Option Scan :=
  ((scan.unroll none).removeKey).map fun ready => (ready.allowKey false).mark 3 token

def fetchFlowStart (scan : Scan) (token : Token) : Option Scan :=
  (scan.saveKey).map fun saved =>
    ({ saved with flowKeys := none :: saved.flowKeys }.allowKey true).mark 1 token

def fetchFlowEnd (scan : Scan) (token : Token) : Option Scan :=
  (scan.removeKey).map fun cleared =>
    ({ cleared with flowKeys := cleared.flowKeys.drop 1 }.allowKey false).mark 1 token

def fetchFlowEntry (scan : Scan) : Option Scan :=
  (scan.removeKey).map fun cleared => (cleared.allowKey true).mark 1 .flowEntry

def fetchBlockEntry (scan : Scan) : Option Scan :=
  if !scan.inFlow && !scan.keyAllowed then none
  else
    ((scan.roll scan.cursor.column none .blockSequenceStart).removeKey).map fun cleared =>
      (cleared.allowKey true).mark 1 .blockEntry

def fetchKey (scan : Scan) : Option Scan :=
  if !scan.inFlow && !scan.keyAllowed then none
  else
    ((scan.roll scan.cursor.column none .blockMappingStart).removeKey).map fun cleared =>
      (cleared.allowKey !scan.inFlow).mark 1 .key

/-- The colon before a value: what could have been a key before it is one. -/
def fetchValue (scan : Scan) : Option Scan :=
  match scan.possibleKey with
  | some key =>
      let keyed := (scan.insert key.tokenCount .key).roll key.place.column (some key.tokenCount)
        .blockMappingStart
      some (((keyed.setKey none).allowKey false).mark 1 .value)
  | none =>
      if !scan.inFlow && !scan.keyAllowed then none
      else
        let rolled := scan.roll scan.cursor.column none .blockMappingStart
        some ((rolled.allowKey !scan.inFlow).mark 1 .value)

def fetchName (scan : Scan) (token : List Char → Token) : Option Scan := do
  let saved ← scan.saveKey
  let (name, after) ← anchorName (saved.cursor.advance 1)
  some (((saved.allowKey false).moveTo after).emit (token name))

def fetchTag (scan : Scan) : Option Scan := do
  let saved ← scan.saveKey
  let ((handle, suffix), after) ← tag saved.inFlow saved.cursor
  some (((saved.allowKey false).moveTo after).emit (.tag handle suffix))

def fetchBlock (scan : Scan) (folded : Bool) : Option Scan := do
  let cleared ← scan.removeKey
  let (text, after) ← block folded cleared.indent? cleared.cursor
  some (((cleared.allowKey true).moveTo after).emit
    (.scalar text (if folded then .folded else .literal)))

def fetchQuoted (scan : Scan) (bound : Nat) (quote : Quote) : Option Scan := do
  let saved ← scan.saveKey
  let (text, after) ← quoted quote bound saved.cursor
  let style : ScalarStyle :=
    match quote with
    | .single => .singleQuoted
    | .double => .doubleQuoted
  some (((saved.allowKey false).moveTo after).emit (.scalar text style))

/-- A plain scalar.  One that ends with a line lets a key begin after it. -/
def fetchPlain (scan : Scan) (bound : Nat) : Option Scan := do
  let saved ← scan.saveKey
  let found ← plain saved.inFlow saved.innerColumn bound saved.cursor
  some (((saved.allowKey found.broken).moveTo found.after).emit (.scalar found.text .plain))

def isIndicator (c : Char) : Bool :=
  "-?:,[]\x7b\x7d#&*!|>'\"%@\x60".toList.contains c

def startsPlain (scan : Scan) (c : Char) : Bool :=
  !(isBlank c || isBreak c || isIndicator c) ||
    (c = '-' && !scan.cursor.isGapAt 1) ||
    (!scan.inFlow && (c = '?' || c = ':') && !scan.cursor.isGapAt 1)

/-- The next token, of which the given character is the first, of fewer than `bound` characters. -/
def fetch (scan : Scan) (bound : Nat) (c : Char) : Option Scan :=
  if scan.cursor.column = 0 ∧ c = '%' then scan.fetchDirective
  else if scan.cursor.atMark '-' then scan.fetchDocumentMark .documentStart
  else if scan.cursor.atMark '.' then scan.fetchDocumentMark .documentEnd
  else if c = '[' then scan.fetchFlowStart .flowSequenceStart
  else if c = '{' then scan.fetchFlowStart .flowMappingStart
  else if c = ']' then scan.fetchFlowEnd .flowSequenceEnd
  else if c = '}' then scan.fetchFlowEnd .flowMappingEnd
  else if c = ',' then scan.fetchFlowEntry
  else if c = '-' ∧ scan.cursor.isGapAt 1 then scan.fetchBlockEntry
  else if c = '?' ∧ (scan.inFlow ∨ scan.cursor.isGapAt 1) then scan.fetchKey
  else if c = ':' ∧ (scan.inFlow ∨ scan.cursor.isGapAt 1) then scan.fetchValue
  else if c = '*' then scan.fetchName .alias
  else if c = '&' then scan.fetchName .anchor
  else if c = '!' then scan.fetchTag
  else if c = '|' ∧ !scan.inFlow then scan.fetchBlock false
  else if c = '>' ∧ !scan.inFlow then scan.fetchBlock true
  else if c = '\'' then scan.fetchQuoted bound .single
  else if c = '"' then scan.fetchQuoted bound .double
  else if scan.startsPlain c then scan.fetchPlain bound
  else none

/-- The tokens of the rest of the text, of at most `bound` more. -/
def finish : Nat → Scan → Option (List Token)
  | 0, _ => none
  | bound + 1, scan =>
      match (skipGap (bound + 1) scan).dropStaleKeys with
      | none => none
      | some fresh =>
          let ready := fresh.unroll (some fresh.cursor.column)
          match ready.cursor.peek? with
          | none => (ready.fetchEnd).map fun ended => ended.tokens.reverse
          | some c =>
              match ready.fetch (bound + 1) c with
              | none => none
              | some next => finish bound next

end Scan

/-- The tokens of a text, if it has no fault.  Each step takes a character at least. -/
def tokens? (text : String) : Option (List Token) :=
  let cs := text.toList
  if cs.all isAllowed then Scan.finish (cs.length + 1) { cursor := { rest := cs } } else none

end Stagehand.Yaml
