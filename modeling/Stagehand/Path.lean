/-! # File paths

A path is kept exactly as it was written; what it denotes is read off its components.  Repeated
slashes and inner dots name nothing, a dot in front is a component of its own, and two dots step up.
The parent of a path is its text without the last component, cleaned of the slashes and dots that
then stand at the end.
-/

set_option autoImplicit false

namespace Stagehand

/-- A path as written. -/
structure Path where
  text : String
deriving DecidableEq, Inhabited, Repr

namespace Path

/-- The pieces of a text between its slashes; there is always one. -/
def segments : List Char → List (List Char)
  | [] => [[]]
  | c :: rest =>
      if c = '/' then [] :: segments rest
      else
        match segments rest with
        | [] => [[c]]
        | segment :: others => (c :: segment) :: others

/-- The pieces with a slash between each two. -/
def joinSegments : List (List Char) → List Char
  | [] => []
  | [segment] => segment
  | segment :: others => segment ++ '/' :: joinSegments others

theorem segments_ne_nil (cs : List Char) : segments cs ≠ [] := by
  induction cs with
  | nil => simp [segments]
  | cons c rest ih =>
      by_cases hc : c = '/'
      · simp [segments, hc]
      · cases hs : segments rest <;> simp [segments, hc, hs]

theorem joinSegments_segments (cs : List Char) : joinSegments (segments cs) = cs := by
  induction cs with
  | nil => rfl
  | cons c rest ih =>
      by_cases hc : c = '/'
      · cases hs : segments rest with
        | nil => exact absurd hs (segments_ne_nil rest)
        | cons segment others => simp_all [segments, joinSegments]
      · cases hs : segments rest with
        | nil => exact absurd hs (segments_ne_nil rest)
        | cons segment others =>
            cases others <;> simp_all [segments, joinSegments]

theorem slash_not_mem_of_mem_segments {cs segment : List Char} (h : segment ∈ segments cs) :
    '/' ∉ segment := by
  induction cs generalizing segment with
  | nil => simp_all [segments]
  | cons c rest ih =>
      by_cases hc : c = '/'
      · rw [segments, if_pos hc] at h
        rcases List.mem_cons.mp h with rfl | h
        · simp
        · exact ih h
      · cases hs : segments rest with
        | nil => exact absurd hs (segments_ne_nil rest)
        | cons first others =>
            rw [segments, if_neg hc, hs] at h
            rcases List.mem_cons.mp h with rfl | h
            · have : '/' ∉ first := ih (by simp [hs])
              simp_all [eq_comm]
            · exact ih (by simp [hs, h])

def isAbsolute (path : Path) : Bool :=
  path.text.toList.head? = some '/'

/-- A step of a path. -/
inductive Component where
  | root
  | here
  | up
  | name (segment : String)
deriving DecidableEq, Repr

/-- The step that a segment stands for after the first one; empty ones and dots stand for none. -/
def component? (segment : List Char) : Option Component :=
  if segment = [] ∨ segment = ['.'] then none
  else if segment = ['.', '.'] then some .up
  else some (.name (String.ofList segment))

def components (path : Path) : List Component :=
  match segments path.text.toList with
  | [] => []
  | first :: others =>
      if path.isAbsolute then .root :: others.filterMap component?
      else if first = ['.'] then .here :: others.filterMap component?
      else (first :: others).filterMap component?

/-- A path below another.  One that starts at the root replaces it; an empty one leaves a slash. -/
def join (path : Path) (child : String) : Path :=
  if (Path.mk child).isAbsolute || path.text.isEmpty then ⟨child⟩
  else if path.text.toList.getLast? = some '/' then ⟨path.text ++ child⟩
  else ⟨path.text ++ "/" ++ child⟩

/-- The segments without those at the end that stand for no step. -/
def dropTrivial (pieces : List (List Char)) : List (List Char) :=
  (pieces.reverse.dropWhile fun piece => (component? piece).isNone).reverse

/-- The segments before the last that stands for a step, cleaned at the end; none if no such. -/
def butLast? (pieces : List (List Char)) : Option (List (List Char)) :=
  match (dropTrivial pieces).reverse with
  | [] => none
  | _ :: before => some (dropTrivial before.reverse)

/-- The path without its last step: none for the root and for the empty path. -/
def parent? (path : Path) : Option Path :=
  match segments path.text.toList with
  | [] => none
  | first :: others =>
      if path.isAbsolute then
        (butLast? others).map fun kept => ⟨String.ofList ('/' :: joinSegments kept)⟩
      else if first = ['.'] then
        match butLast? others with
        | none => some ⟨""⟩
        | some kept => some ⟨String.ofList (joinSegments (first :: kept))⟩
      else
        (butLast? (first :: others)).map fun kept => ⟨String.ofList (joinSegments kept)⟩

/-- The parents of a path, nearest first, at most `bound` of them. -/
def parentsUpTo : Nat → Path → List Path
  | 0, _ => []
  | bound + 1, path =>
      match path.parent? with
      | none => []
      | some parent => parent :: parentsUpTo bound parent

/-- The path and its parents, nearest first.  Each is shorter than the one before. -/
def ancestors (path : Path) : List Path :=
  path :: parentsUpTo path.text.length path

end Path
end Stagehand
