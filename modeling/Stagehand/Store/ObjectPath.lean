import Stagehand.Path
import Stagehand.Text.Decoded

/-! # Object paths

A store knows an object by a path: non-empty segments joined with slashes, none of them a dot or two
dots, none with a control character.  Any text can be made into such a path by dropping empty
segments and writing doubtful bytes as percent codes; a key, on the other hand, is taken as it is or
refused.
-/

set_option autoImplicit false

namespace Stagehand

/-- A path inside a bucket, as the store spells it. -/
structure ObjectPath where
  raw : String
deriving DecidableEq, Inhabited, Repr

namespace ObjectPath

/-- The segments of a path; a slash at the end adds none. -/
def segments (path : ObjectPath) : List (List Char) :=
  let pieces := Path.segments path.raw.toList
  if pieces.getLast? = some [] then pieces.dropLast else pieces

/-- The bytes that a segment made from any text keeps as they are. -/
def keepsByte (b : UInt8) : Bool :=
  0x20 ≤ b && b < 0x7F &&
    !"\\\x7b^\x7d%\x60]\">[~<#|*?".toList.any fun c => c.toNat = b.toNat

def percentCode (b : UInt8) : List Char :=
  let digits := (Nat.toDigits 16 b.toNat).map Char.toUpper
  '%' :: (List.replicate (2 - digits.length) '0' ++ digits)

def encodeSegment (segment : List Char) : List Char :=
  if segment = ['.'] then "%2E".toList
  else if segment = ['.', '.'] then "%2E%2E".toList
  else
    (Text.encode (String.ofList segment)).flatMap fun b =>
      if keepsByte b then [Char.ofNat b.toNat] else percentCode b

def ofText (text : String) : ObjectPath :=
  let pieces := (Path.segments text.toList).filter (· ≠ [])
  ⟨String.ofList (Path.joinSegments (pieces.map encodeSegment))⟩

inductive Refusal where
  | emptySegment
  | illegal (sequence segment : String)
deriving DecidableEq, Inhabited, Repr

def Refusal.message (key : String) : Refusal → String
  | .emptySegment => s!"Path \"{key}\" contained empty path segment"
  | .illegal sequence segment =>
      s!"Error parsing Path \"{key}\": Encountered illegal character sequence " ++
      s!"\"{sequence}\" whilst parsing path segment \"{segment}\""

/-- A control character of the lowest range, or the one above the printable ones. -/
def isControl (c : Char) : Bool :=
  c.toNat < 0x20 || c.toNat = 0x7F

def segmentRefusal? (segment : List Char) : Option Refusal :=
  if segment = [] then some .emptySegment
  else if segment = ['.'] ∨ segment = ['.', '.'] then
    some (.illegal (String.ofList segment) (String.ofList segment))
  else
    (segment.find? isControl).map fun c => .illegal c.toString (String.ofList segment)

def dropLeadingSlash : List Char → List Char
  | '/' :: rest => rest
  | cs => cs

def dropTrailingSlash (cs : List Char) : List Char :=
  if cs.getLast? = some '/' then cs.dropLast else cs

/-- The path that a key spells, up to one slash at either end. -/
def parse (key : String) : Except Refusal ObjectPath :=
  let inner := dropLeadingSlash key.toList
  if inner = [] then .ok ⟨""⟩
  else
    let spelled := dropTrailingSlash inner
    match (Path.segments spelled).findSome? segmentRefusal? with
    | some refusal => .error refusal
    | none => .ok ⟨String.ofList spelled⟩

/-- The second path is below the first: it has the same segments and at least one more. -/
def isAbove (parent path : ObjectPath) : Bool :=
  parent.segments.isPrefixOf path.segments && parent.segments.length < path.segments.length

end ObjectPath
end Stagehand
