/-! # File trees

A file tree holds a node for each location below the root, which is a directory by itself.  A
location is the list of names that lead to it.  What a tree holds at a location is all that counts:
`at?` is the view through which every change is described.
-/

set_option autoImplicit false

namespace Stagehand

abbrev Bytes := List UInt8

/-- The names that lead from the root to a place in the tree. -/
abbrev Location := List String

/-- What stands at a place in the tree. -/
inductive Node where
  | directory
  | file (content : Bytes)
  | link (target : String)
deriving DecidableEq, Inhabited, Repr

/-- The nodes below the root, and the directory that relative paths start from. -/
structure FileTree where
  nodes : List (Location × Node) := []
  workingDirectory : Location := []
deriving DecidableEq, Inhabited, Repr

namespace FileTree

def at? (tree : FileTree) (location : Location) : Option Node :=
  if location = [] then some .directory
  else (tree.nodes.find? fun entry => entry.1 = location).map Prod.snd

/-- The tree with a node put at a location, in place of what stood there. -/
def put (tree : FileTree) (location : Location) (node : Node) : FileTree :=
  { tree with nodes := (location, node) :: tree.nodes.filter fun entry => entry.1 ≠ location }

/-- The tree without a location and everything below it. -/
def cut (tree : FileTree) (location : Location) : FileTree :=
  { tree with nodes := tree.nodes.filter fun entry => !location.isPrefixOf entry.1 }

/-- The nodes below a location, each with its place relative to it. -/
def below (tree : FileTree) (location : Location) : List (Location × Node) :=
  tree.nodes.filterMap fun entry =>
    if location.isPrefixOf entry.1 && entry.1 ≠ location then
      some (entry.1.drop location.length, entry.2)
    else none

theorem at?_nil (tree : FileTree) : tree.at? [] = some .directory := by
  simp [at?]

theorem at?_put_self (tree : FileTree) {location : Location} (node : Node) (h : location ≠ []) :
    (tree.put location node).at? location = some node := by
  simp [at?, put, h]

theorem at?_put_of_ne (tree : FileTree) {location other : Location} (node : Node)
    (h : other ≠ location) : (tree.put location node).at? other = tree.at? other := by
  by_cases hroot : other = []
  · simp [at?, hroot]
  · have hne : ¬ location = other := fun e => h e.symm
    simp only [at?, put, if_neg hroot, List.find?_cons, hne, decide_false]
    congr 1
    rw [List.find?_filter]
    congr 1
    funext entry
    by_cases he : entry.1 = other
    · simp [he, h]
    · simp [he]

theorem put_put (tree : FileTree) (location : Location) (first second : Node) :
    (tree.put location first).put location second = tree.put location second := by
  simp [put, List.filter_filter]

theorem at?_cut_of_not_prefix (tree : FileTree) {location other : Location}
    (h : location.isPrefixOf other = false) : (tree.cut location).at? other = tree.at? other := by
  by_cases hroot : other = []
  · simp [at?, hroot]
  · simp only [at?, cut, if_neg hroot]
    congr 1
    rw [List.find?_filter]
    congr 1
    funext entry
    by_cases he : entry.1 = other
    · simp [he, h]
    · simp [he]

theorem at?_cut_of_prefix (tree : FileTree) {location other : Location} (h : other ≠ [])
    (starts : location.isPrefixOf other = true) : (tree.cut location).at? other = none := by
  simp only [at?, cut, if_neg h, Option.map_eq_none_iff, List.find?_eq_none, List.mem_filter]
  rintro entry ⟨-, kept⟩ same
  rw [of_decide_eq_true same, starts] at kept
  cases kept

theorem at?_cut (tree : FileTree) (location other : Location) :
    (tree.cut location).at? other =
      if other ≠ [] ∧ location <+: other then none else tree.at? other := by
  by_cases root : other = []
  · rw [if_neg (by simp [root]), root, at?_nil, at?_nil]
  by_cases starts : location <+: other
  · rw [if_pos ⟨root, starts⟩]
    exact at?_cut_of_prefix tree root (List.isPrefixOf_iff_prefix.mpr starts)
  · rw [if_neg fun both => starts both.2]
    refine at?_cut_of_not_prefix tree (Bool.eq_false_iff.mpr fun prefixed => ?_)
    exact starts (List.isPrefixOf_iff_prefix.mp prefixed)

end FileTree
end Stagehand
