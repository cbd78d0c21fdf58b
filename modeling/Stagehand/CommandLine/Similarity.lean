/-! # How alike two words are

Two words share a character where it stands in both at places that are not too far apart.  Their
likeness is the mean of three shares: of the first word and of the second that they have in common,
and of the common characters that stand in the same order.
-/

set_option autoImplicit false

namespace Stagehand.Similarity

/-- The word without the first `c` at a place from `low` up to `high`, end excluded; characters used
up are none. -/
def useUp (c : Char) (low high : Nat) : Nat → List (Option Char) → Option (List (Option Char))
  | _, [] => none
  | place, other :: rest =>
      if low ≤ place ∧ place < high ∧ other = some c then some (none :: rest)
      else (useUp c low high (place + 1) rest).map (other :: ·)

/-- The characters of the first word that the second one shares, in order, and the second word with
its shared characters used up. -/
def share (range : Nat) : Nat → List Char → List (Option Char) → List Char × List (Option Char)
  | _, [], second => ([], second)
  | place, c :: rest, second =>
      match useUp c (place - range) (place + range + 1) 0 second with
      | none => share range (place + 1) rest second
      | some left =>
          let later := share range (place + 1) rest left
          (c :: later.1, later.2)

/-- The characters of the second word that were used up, in order. -/
def usedUp (second : List Char) (left : List (Option Char)) : List Char :=
  ((second.zip left).filter fun pair => pair.2.isNone).map Prod.fst

/-- A likeness as a fraction, between zero and three. -/
structure Likeness where
  numerator : Nat
  denominator : Nat
deriving DecidableEq, Inhabited, Repr

/-- The sum of the three shares of two words. -/
def likeness (first second : List Char) : Likeness :=
  let a := first.length
  let b := second.length
  if a = 0 ∧ b = 0 then ⟨3, 1⟩
  else
    let (common, left) := share (max a b / 2 - 1) 0 first (second.map some)
    let m := common.length
    if m = 0 then ⟨0, 1⟩
    else
      let swapped := ((common.zip (usedUp second left)).countP fun pair => pair.1 ≠ pair.2) / 2
      ⟨m * m * b + m * m * a + (m - swapped) * a * b, a * b * m⟩

def Likeness.atLeast (first second : Likeness) : Bool :=
  second.numerator * first.denominator ≤ first.numerator * second.denominator

/-- Seven tenths of full likeness are passed. -/
def Likeness.isClose (likeness : Likeness) : Bool :=
  21 * likeness.denominator < 10 * likeness.numerator

/-- The word among some that is most like the given one, if any is close to it. -/
def closest? (word : String) (among : List String) : Option String :=
  let close := (among.map fun other => (likeness word.toList other.toList, other)).filter
    fun entry => entry.1.isClose
  (close.foldl (fun (best : Option (Likeness × String)) entry =>
    match best with
    | none => some entry
    | some held => if entry.1.atLeast held.1 then some entry else some held) none).map Prod.snd

end Stagehand.Similarity
