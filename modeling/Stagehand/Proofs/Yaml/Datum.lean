import Stagehand.Yaml.Node

/-! # Data in braces

A JSON text is a YAML text as well.  Its objects are flow mappings, its strings are quoted scalars, and
its flags and numbers are plain ones.  Between its pieces there may be spaces and line feeds; only a
name and its colon have to stay close, for that is how YAML knows a key.
-/

set_option autoImplicit false

namespace Stagehand.Yaml

/-- A value that can be written in braces: a text, a flag, a number of sixteen bits, or an object with
named members. -/
inductive Datum where
  | text (value : String)
  | flag (value : Bool)
  | word (value : UInt16)
  | object (members : List (String × Datum))
deriving Inhabited, Repr

/-- A character from the space to the tilde. -/
def IsPrintable (c : Char) : Prop :=
  0x20 ≤ c.toNat ∧ c.toNat ≤ 0x7E

instance (c : Char) : Decidable (IsPrintable c) :=
  inferInstanceAs (Decidable (_ ∧ _))

def AllPrintable (chars : List Char) : Prop :=
  ∀ c ∈ chars, IsPrintable c

instance (chars : List Char) : Decidable (AllPrintable chars) :=
  List.decidableBAll IsPrintable chars

/-- A character that indents a text. -/
def IsLayout (c : Char) : Prop :=
  c = ' ' ∨ c = '\n'

instance (c : Char) : Decidable (IsLayout c) :=
  inferInstanceAs (Decidable (_ ∨ _))

/-- A printable character between quotes: a quote and a backslash stand behind a backslash. -/
def escaped (c : Char) : List Char :=
  if c = '"' ∨ c = '\\' then ['\\', c] else [c]

/-- A text between quotes. -/
def quotation (text : String) : List Char :=
  '"' :: (text.toList.flatMap escaped ++ ['"'])

/-- A piece of a text in braces.  A name has its colon with it. -/
inductive Piece where
  | opening
  | closing
  | comma
  | name (name : String)
  | text (value : String)
  | bare (word : List Char)
deriving DecidableEq, Inhabited, Repr

namespace Piece

/-- The ways to write a piece.  A colon may stand off its name, in the same line and not too far. -/
inductive Spells : Piece → List Char → Prop where
  | opening : Spells opening ['{']
  | closing : Spells closing ['}']
  | comma : Spells comma [',']
  | name {title : String} {spaces : List Char} : (∀ c ∈ spaces, c = ' ') →
      (quotation title ++ spaces).length ≤ keyLimit →
      Spells (name title) (quotation title ++ spaces ++ [':'])
  | text {value : String} : Spells (text value) (quotation value)
  | bare {word : List Char} : Spells (bare word) word

/-- What a piece holds can be written. -/
def Sound : Piece → Prop
  | name title => AllPrintable title.toList
  | text value => AllPrintable value.toList
  | bare word => word ≠ [] ∧ word.all Char.isAlphanum = true
  | _ => True

end Piece

/-- A text that consists of these pieces, with spaces and line feeds around them or none. -/
inductive Written : List Piece → List Char → Prop where
  | nil : Written [] []
  | layout {pieces : List Piece} {c : Char} {rest : List Char} : IsLayout c →
      Written pieces rest → Written pieces (c :: rest)
  | piece {piece : Piece} {others : List Piece} {chars rest : List Char} : piece.Spells chars →
      Written others rest → Written (piece :: others) (chars ++ rest)

theorem Written.after_layout {layout : List Char} (indents : ∀ c ∈ layout, IsLayout c)
    {pieces : List Piece} {rest : List Char} (written : Written pieces rest) :
    Written pieces (layout ++ rest) := by
  induction layout with
  | nil => exact written
  | cons c others ih =>
      obtain ⟨first, later⟩ := List.forall_mem_cons.mp indents
      exact .layout first (ih later)

namespace Datum

mutual

/-- The pieces that a value is written with. -/
def pieces : Datum → List Piece
  | text value => [.text value]
  | flag value => [.bare (toString value).toList]
  | word value => [.bare (toString value).toList]
  | object members => .opening :: (memberPieces members ++ [.closing])

/-- The members of an object with a comma between each two. -/
def memberPieces : List (String × Datum) → List Piece
  | [] => []
  | [(name, value)] => .name name :: value.pieces
  | (name, value) :: next :: others =>
      .name name :: (value.pieces ++ .comma :: memberPieces (next :: others))

end

/-- The text is a JSON text of the value, compact or indented. -/
def IsText (value : Datum) (text : String) : Prop :=
  Written value.pieces text.toList

/-- The texts and names in a value can be written between quotes. -/
def Printable (value : Datum) : Prop :=
  ∀ piece ∈ value.pieces, piece.Sound

mutual

/-- The node that a value is read as. -/
def node : Datum → Node
  | text value => .scalar value.toList .doubleQuoted none
  | flag value => .scalar (toString value).toList .plain none
  | word value => .scalar (toString value).toList .plain none
  | object members => .mapping (memberNodes members)

def memberNodes : List (String × Datum) → List (Node × Node)
  | [] => []
  | (name, value) :: others =>
      (.scalar name.toList .doubleQuoted none, value.node) :: memberNodes others

end

/-- A property of all values that objects have if their members have it. -/
@[induction_eliminator]
theorem byParts {motive : Datum → Prop} (text : ∀ value, motive (.text value))
    (flag : ∀ value, motive (.flag value)) (word : ∀ value, motive (.word value))
    (object : ∀ members, (∀ member ∈ members, motive member.2) → motive (.object members))
    (value : Datum) : motive value := by
  match value with
  | .text value => exact text value
  | .flag value => exact flag value
  | .word value => exact word value
  | .object members =>
      exact object members fun member _ => byParts text flag word object member.2
termination_by value
decreasing_by
  rename_i among
  have smaller := List.sizeOf_lt_of_mem among
  obtain ⟨name, inner⟩ := member
  simp only [Datum.object.sizeOf_spec, Prod.mk.sizeOf_spec] at smaller ⊢
  omega

theorem memberPieces_cons (member : String × Datum) (others : List (String × Datum)) :
    memberPieces (member :: others) =
      .name member.1 ::
        (member.2.pieces ++ if others = [] then [] else .comma :: memberPieces others) := by
  obtain ⟨name, value⟩ := member
  cases others <;> simp [memberPieces]

/-! ## Values that can be written -/

theorem printable_text {text : String} (printable : AllPrintable text.toList) :
    (Datum.text text).Printable :=
  List.forall_mem_singleton.mpr printable

theorem printable_flag (flag : Bool) : (Datum.flag flag).Printable := by
  refine List.forall_mem_singleton.mpr ?_
  cases flag <;> exact ⟨by decide, by decide⟩

theorem printable_word (word : UInt16) : (Datum.word word).Printable := by
  have digits : (toString word).toList = Nat.toDigits 10 word.toNat := Nat.toList_repr
  refine List.forall_mem_singleton.mpr ?_
  rw [Piece.Sound, digits]
  refine ⟨Nat.toDigits_ne_nil, List.all_eq_true.mpr fun c member => ?_⟩
  simp [Char.isAlphanum, Nat.isDigit_of_mem_toDigits (by decide) (by decide) member]

theorem printable_object {members : List (String × Datum)}
    (each : ∀ member ∈ members, AllPrintable member.1.toList ∧ member.2.Printable) :
    (Datum.object members).Printable := by
  have inside : ∀ piece ∈ memberPieces members, piece.Sound := by
    induction members with
    | nil => simp [memberPieces]
    | cons member others ih =>
        obtain ⟨⟨name, value⟩, later⟩ := List.forall_mem_cons.mp each
        rw [memberPieces_cons]
        refine List.forall_mem_cons.mpr ⟨name, List.forall_mem_append.mpr ⟨value, ?_⟩⟩
        split
        · simp
        · exact List.forall_mem_cons.mpr ⟨trivial, ih later⟩
  refine List.forall_mem_cons.mpr ⟨trivial, List.forall_mem_append.mpr ⟨inside, ?_⟩⟩
  exact List.forall_mem_singleton.mpr trivial

end Datum

/-! ## Printing -/

namespace Piece

/-- A piece as a printer writes it, with no space before a colon. -/
def chars : Piece → List Char
  | opening => ['{']
  | closing => ['}']
  | comma => [',']
  | name title => quotation title ++ [':']
  | text value => quotation value
  | bare word => word

/-- A name is short enough to be known as a key. -/
def isShort : Piece → Bool
  | name title => (quotation title).length ≤ keyLimit
  | _ => true

theorem spells_chars {piece : Piece} (short : piece.isShort = true) : piece.Spells piece.chars := by
  cases piece with
  | opening => exact .opening
  | closing => exact .closing
  | comma => exact .comma
  | name title =>
      have near : (quotation title ++ []).length ≤ keyLimit := by simpa [isShort] using short
      simpa [chars] using Spells.name (fun c member => absurd member (List.not_mem_nil)) near
  | text value => exact .text
  | bare word => exact .bare

end Piece

namespace Datum

/-- A text of the value, with some layout after each piece. -/
def printed (layout : Piece → List Char) (value : Datum) : String :=
  String.ofList (value.pieces.flatMap fun piece => piece.chars ++ layout piece)

theorem isText_printed {layout : Piece → List Char}
    (indents : ∀ piece, ∀ c ∈ layout piece, IsLayout c) {value : Datum}
    (short : value.pieces.all Piece.isShort = true) : value.IsText (value.printed layout) := by
  rw [IsText, printed, String.toList_ofList]
  rw [List.all_eq_true] at short
  generalize value.pieces = pieces at short ⊢
  induction pieces with
  | nil => exact .nil
  | cons piece others ih =>
      obtain ⟨first, later⟩ := List.forall_mem_cons.mp short
      rw [List.flatMap_cons, List.append_assoc]
      refine .piece (Piece.spells_chars first) ?_
      exact Written.after_layout (indents piece) (ih later)

end Datum
end Stagehand.Yaml
