import Stagehand.Text.Alphanumeric
import Stagehand.Text.Blank
import Stagehand.Text.Hexadecimal

/-! # Patterns

A pattern is a regular expression.  It is read piece by piece: a piece is an item, a repetition, a
part of a group, the bar between alternatives or a change of the options.  A pattern can be matched
with if each piece can, every repetition has something to repeat, and the groups are closed.

Matching knows no properties of characters beyond ASCII.  While the pattern stands for characters, the
sets of digits, spaces and word characters are therefore unknown, and so are the two cases of a
letter.  While it stands for bytes they are known, but nothing may match a part of a character.
-/

set_option autoImplicit false

namespace Stagehand.Pattern

/-- Why a text is no pattern to match with. -/
inductive Fault where
  | malformed
  /-- Matching does not look for the edges of words. -/
  | wordEdge
deriving DecidableEq, Inhabited, Repr

def Fault.message : Fault → String
  | .malformed => "error building NFA"
  | .wordEdge =>
      "unsupported regex feature for DFAs: cannot build DFAs for regexes with Unicode word " ++
        "boundaries; switch to ASCII word boundaries, or heuristically enable Unicode word " ++
        "boundaries or use a different regex engine"

/-! ## Options -/

/-- How the pieces of a pattern are meant. -/
structure Options where
  ignoreCase : Bool := false
  /-- The pattern stands for characters, not for bytes. -/
  unicode : Bool := true
  /-- Blanks and comments between the pieces do not count. -/
  spaced : Bool := false
deriving DecidableEq, Inhabited, Repr

namespace Options

/-- Letters that turn options on, and after a hyphen off. -/
def change : Bool → Options → List Char → Options
  | _, options, [] => options
  | on, options, c :: rest =>
      if c = '-' then change false options rest
      else if c = 'i' then change on { options with ignoreCase := on } rest
      else if c = 'u' then change on { options with unicode := on } rest
      else if c = 'x' then change on { options with spaced := on } rest
      else change on options rest

/-- Letters that change options: each once, and one of them after a hyphen. -/
def areLetters (letters : List Char) : Bool :=
  letters.all "imsUuRx-".toList.contains && letters.Nodup && letters.getLast? ≠ some '-'

def afterGap : (inComment : Bool) → List Char → List Char
  | _, [] => []
  | true, c :: rest => afterGap (c ≠ '\n') rest
  | false, c :: rest =>
      if Text.isBlankChar c then afterGap false rest
      else if c = '#' then afterGap true rest
      else c :: rest

/-- The text from the next character on that counts. -/
def next (options : Options) (chars : List Char) : List Char :=
  if options.spaced then afterGap false chars else chars

/-- A character can be matched with.  Bytes of a character are none by themselves, and a class of
bytes holds only ASCII. -/
def allowsChar (options : Options) (inClass : Bool) (code : Nat) (isByte : Bool) : Bool :=
  if options.unicode then !options.ignoreCase
  else code < 0x80 || !(inClass || isByte)

/-- One of the sets of digits, spaces and word characters can be matched with, or what is not in
it. -/
def allowsSet (options : Options) (complement : Bool) : Bool :=
  !options.unicode && !complement

def allowsClass (options : Options) : Bool :=
  !(options.unicode && options.ignoreCase)

end Options

/-! ## Escapes -/

inductive Escape where
  | char (code : Nat) (isByte : Bool)
  | set (complement : Bool)
  | edge
  | wordEdge
deriving DecidableEq, Inhabited, Repr

/-- A character by the digits of its code, of which there are as many as given; two of them can be
a byte. -/
def codeEscape (count : Nat) (chars : List Char) : Option (Escape × List Char) :=
  let digits := chars.take count
  if digits.length < count then none
  else
    (Text.hexNumber? digits).bind fun code =>
      if (0xD800 ≤ code ∧ code ≤ 0xDFFF) ∨ 0x10FFFF < code then none
      else some (.char code (count = 2), chars.drop count)

/-- The control that a letter after a backslash stands for. -/
def controlCode? (c : Char) : Option Nat :=
  match c with
  | 'a' => some 7
  | 'f' => some 12
  | 't' => some 9
  | 'n' => some 10
  | 'r' => some 13
  | 'v' => some 11
  | _ => none

/-- The characters after a backslash.  A mark stands for itself; a letter has to mean something that
matching knows. -/
def escape : List Char → Option (Escape × List Char)
  | [] => none
  | c :: rest =>
      if c = 'x' then codeEscape 2 rest
      else if c = 'u' then codeEscape 4 rest
      else if c = 'U' then codeEscape 8 rest
      else if c = 'd' ∨ c = 's' ∨ c = 'w' then some (.set false, rest)
      else if c = 'D' ∨ c = 'S' ∨ c = 'W' then some (.set true, rest)
      else if c = 'A' ∨ c = 'z' then some (.edge, rest)
      else if c = 'b' ∨ c = 'B' ∨ c = '<' ∨ c = '>' then some (.wordEdge, rest)
      else
        match controlCode? c with
        | some code => some (.char code false, rest)
        | none =>
            if c.isAlphanum || 0x7F < c.toNat then none else some (.char c.toNat false, rest)

/-! ## Classes of characters -/

/-- The names of classes that are written between colons. -/
def classNames : List String :=
  ["alnum", "alpha", "ascii", "blank", "cntrl", "digit", "graph", "lower", "print", "punct",
   "space", "upper", "word", "xdigit"]

/-- A named class from its first colon on: whether its complement is meant, and what follows it. -/
def namedClass? : List Char → Option (Bool × List Char)
  | ':' :: rest =>
      let complement := rest.head? = some '^'
      let name := if complement then rest.drop 1 else rest
      match name.dropWhile (· ≠ ':') with
      | ':' :: ']' :: after =>
          if classNames.contains (String.ofList (name.takeWhile (· ≠ ':'))) then
            some (complement, after)
          else none
      | _ => none
  | _ => none

/-- What follows the opening of a class: a caret for the complement, which is none of bytes, and a
closing bracket that stands for itself. -/
def afterClassOpening (options : Options) (chars : List Char) : Option (List Char) :=
  let opened := options.next chars
  let turned :=
    match opened with
    | '^' :: rest => if options.unicode then some (options.next rest) else none
    | _ => some opened
  turned.map fun items =>
    match items with
    | ']' :: rest => rest
    | _ => items

def classItem (options : Options) : List Char → Option (Escape × List Char)
  | [] => none
  | '\\' :: rest =>
      (escape rest).bind fun found =>
        let allowed :=
          match found.1 with
          | .char code isByte => options.allowsChar true code isByte
          | .set complement => options.allowsSet complement
          | _ => false
        if allowed then some found else none
  | c :: rest =>
      if options.allowsChar true c.toNat false then some (.char c.toNat false, rest) else none

/-- An item of a class, or a range from one character up to another. -/
def classRange (options : Options) (chars : List Char) : Option (List Char) :=
  (classItem options chars).bind fun low =>
    let after := options.next low.2
    match after with
    | '-' :: rest =>
        match options.next rest with
        | ']' :: _ => some after
        | '-' :: _ => some after
        | others =>
            (classItem options others).bind fun high =>
              match low.1, high.1 with
              | .char first _, .char last _ => if first ≤ last then some high.2 else none
              | _, _ => none
    | _ => some after

/-- What follows a class, some of them deep in one another, of at most `bound` items. -/
def afterClass (options : Options) : Nat → Nat → List Char → Option (List Char)
  | 0, _, _ => none
  | bound + 1, depth, chars =>
      match options.next chars with
      | [] => none
      | ']' :: rest => if depth = 0 then some rest else afterClass options bound (depth - 1) rest
      | '[' :: rest =>
          match namedClass? rest with
          | some (complement, after) =>
              if complement && !options.unicode then none
              else afterClass options bound depth after
          | none =>
              (afterClassOpening options rest).bind (afterClass options bound (depth + 1))
      | '&' :: '&' :: rest => afterClass options bound depth rest
      | '-' :: '-' :: rest => afterClass options bound depth rest
      | '~' :: '~' :: rest => afterClass options bound depth rest
      | items => (classRange options items).bind (afterClass options bound depth)

/-! ## Pieces -/

inductive Piece where
  | item
  | wordEdge
  | repetition
  /-- A group begins, perhaps with a name, perhaps with options of its own. -/
  | opening (name : Option (List Char)) (changes : List Char)
  | closing
  | bar
  /-- Options for the rest of the group, which nothing can repeat. -/
  | options (changes : List Char)
deriving DecidableEq, Inhabited, Repr

/-- A group with a name, which a closing mark ends. -/
def namedGroup (chars : List Char) : Option (Piece × List Char) :=
  let isPart := fun c => Text.isAlphanumeric c || c = '_' || c = '.' || c = '[' || c = ']'
  let name := chars.takeWhile isPart
  match name.head?, chars.drop name.length with
  | some first, '>' :: rest =>
      if first = '_' || (Text.isAlphanumeric first && !first.isDigit) then
        some (.opening (some name) [], rest)
      else none
  | _, _ => none

/-- What opens a group after its parenthesis, or changes options. -/
def opening : List Char → Option (Piece × List Char)
  | '?' :: '=' :: _ => none
  | '?' :: '!' :: _ => none
  | '?' :: '<' :: '=' :: _ => none
  | '?' :: '<' :: '!' :: _ => none
  | '?' :: '<' :: rest => namedGroup rest
  | '?' :: 'P' :: '<' :: rest => namedGroup rest
  | '?' :: rest =>
      let letters := rest.takeWhile fun c => c ≠ ':' && c ≠ ')'
      if !Options.areLetters letters then none
      else
        match rest.drop letters.length with
        | ':' :: after => some (.opening none letters, after)
        | ')' :: after => if letters = [] then none else some (.options letters, after)
        | _ => none
  | rest => some (.opening none [], rest)

def escapedPiece (options : Options) : Escape → Option Piece
  | .char code isByte => if options.allowsChar false code isByte then some .item else none
  | .set complement => if options.allowsSet complement then some .item else none
  | .edge => some .item
  | .wordEdge => some (if options.unicode then .wordEdge else .item)

/-- The first piece of a pattern that is not empty, and what follows it. -/
def piece (options : Options) : List Char → Option (Piece × List Char)
  | [] => none
  | '\\' :: rest =>
      (escape rest).bind fun found => (escapedPiece options found.1).map (·, found.2)
  | '[' :: rest =>
      if !options.allowsClass then none
      else
        (afterClassOpening options rest).bind fun items =>
          (afterClass options (items.length + 1) 0 items).map (Piece.item, ·)
  | '(' :: rest => opening (options.next rest)
  | ')' :: rest => some (.closing, rest)
  | '|' :: rest => some (.bar, rest)
  | '{' :: _ => none
  | '.' :: rest => if options.unicode then some (.item, rest) else none
  | c :: rest =>
      if c = '*' ∨ c = '+' ∨ c = '?' then
        some (.repetition, if rest.head? = some '?' then rest.drop 1 else rest)
      else if c = '^' ∨ c = '$' ∨ options.allowsChar false c.toNat false then some (.item, rest)
      else none

/-! ## Whole patterns -/

structure Reading where
  options : Options := {}
  /-- The options outside of each open group, the innermost first. -/
  outer : List Options := []
  names : List (List Char) := []
  repeatable : Bool := false
  wordEdges : Bool := false
deriving DecidableEq, Inhabited, Repr

def Reading.step (reading : Reading) : Piece → Option Reading
  | .item => some { reading with repeatable := true }
  | .wordEdge => some { reading with repeatable := true, wordEdges := true }
  | .repetition => if reading.repeatable then some reading else none
  | .opening name changes =>
      if name.any reading.names.contains then none
      else
        some { reading with
          options := reading.options.change true changes
          outer := reading.options :: reading.outer
          names := name.toList ++ reading.names
          repeatable := false }
  | .closing =>
      match reading.outer with
      | [] => none
      | options :: outer =>
          some { reading with options := options, outer := outer, repeatable := true }
  | .bar => some { reading with repeatable := false }
  | .options changes =>
      some { reading with options := reading.options.change true changes, repeatable := false }

/-- The reading after a text of at most `bound` pieces. -/
def Reading.through : Nat → Reading → List Char → Option Reading
  | 0, reading, chars => if reading.options.next chars = [] then some reading else none
  | bound + 1, reading, chars =>
      match reading.options.next chars with
      | [] => some reading
      | ahead => do
          let (found, rest) ← piece reading.options ahead
          let later ← reading.step found
          through bound later rest

/-- What keeps a text from being matched with, if anything does. -/
def fault? (text : List Char) : Option Fault :=
  match Reading.through text.length {} text with
  | none => some .malformed
  | some reading =>
      if reading.outer ≠ [] then some .malformed
      else if reading.wordEdges then some .wordEdge
      else none

end Stagehand.Pattern
