import Mathlib.Data.List.Induction
import Mathlib.Tactic.SplitIfs
import Mathlib.Tactic.Conv
import Stagehand.Path

/-! # Paths as lists of pieces

Joining and taking parents work on the text of a path, but what a path leads to is decided by its
pieces.  Here both are told in terms of pieces: joining appends the pieces of the child, and a
parent loses the last piece that stands for a step, with everything trivial around it.
-/

set_option autoImplicit false

namespace Stagehand.Path

/-! ## Splitting and joining -/

theorem segments_injective : Function.Injective segments :=
  Function.LeftInverse.injective joinSegments_segments

theorem segments_append_slash (before after : List Char) :
    segments (before ++ '/' :: after) = segments before ++ segments after := by
  induction before with
  | nil => rfl
  | cons c rest ih =>
      by_cases slash : c = '/'
      · simp only [List.cons_append, segments, if_pos slash, ih]
      · obtain ⟨first, others, split⟩ := List.exists_cons_of_ne_nil (segments_ne_nil rest)
        simp only [List.cons_append, segments, if_neg slash, ih, split]

theorem segments_of_not_mem {piece : List Char} (plain : '/' ∉ piece) :
    segments piece = [piece] := by
  induction piece with
  | nil => rfl
  | cons c rest ih =>
      rw [List.mem_cons, not_or] at plain
      rw [segments, if_neg (Ne.symm plain.1), ih plain.2]

theorem segments_joinSegments {pieces : List (List Char)} (nonempty : pieces ≠ [])
    (plain : ∀ piece ∈ pieces, '/' ∉ piece) : segments (joinSegments pieces) = pieces := by
  induction pieces with
  | nil => exact absurd rfl nonempty
  | cons piece others ih =>
      have first := segments_of_not_mem (plain piece List.mem_cons_self)
      cases others with
      | nil => exact first
      | cons next later =>
          rw [joinSegments, segments_append_slash, first,
            ih (by simp) fun other member => plain other (List.mem_cons_of_mem _ member)]
          · rfl
          · simp

theorem segments_ofPieces {pieces : List (List Char)} (nonempty : pieces ≠ [])
    (plain : ∀ piece ∈ pieces, '/' ∉ piece) :
    segments (Path.mk (String.ofList (joinSegments pieces))).text.toList = pieces := by
  rw [String.toList_ofList]
  exact segments_joinSegments nonempty plain

theorem joinSegments_concat {pieces : List (List Char)} (nonempty : pieces ≠ [])
    (last : List Char) : joinSegments (pieces ++ [last]) = joinSegments pieces ++ '/' :: last := by
  induction pieces with
  | nil => exact absurd rfl nonempty
  | cons piece others ih =>
      cases others with
      | nil => rfl
      | cons next later =>
          have rest := ih (by simp)
          simp only [List.cons_append, joinSegments] at rest ⊢
          rw [rest]
          simp

theorem getLast?_segments_eq_nil {text : List Char} (nonempty : text ≠ []) :
    (segments text).getLast? = some [] ↔ text.getLast? = some '/' := by
  constructor
  · intro trailing
    obtain ⟨before, split⟩ := List.getLast?_eq_some_iff.mp trailing
    have whole := joinSegments_segments text
    rw [split] at whole
    by_cases alone : before = []
    · rw [alone] at whole
      exact absurd whole.symm nonempty
    · rw [← whole, joinSegments_concat alone]
      simp
  · intro trailing
    obtain ⟨before, split⟩ := List.getLast?_eq_some_iff.mp trailing
    rw [split, segments_append_slash]
    simp [segments]

/-- The pieces of a path that stay in front when something is joined to it. -/
def leading (path : Path) : List (List Char) :=
  if (segments path.text.toList).getLast? = some [] then (segments path.text.toList).dropLast
  else segments path.text.toList

theorem segments_join {path : Path} {child : String} (nonempty : path.text ≠ "")
    (relative : (Path.mk child).isAbsolute = false) :
    segments (path.join child).text.toList = path.leading ++ segments child.toList := by
  have characters : path.text.toList ≠ [] := by
    simpa using nonempty
  have written : path.text.isEmpty = false := by
    simpa using nonempty
  unfold join leading
  rw [relative, written, Bool.or_self, if_neg Bool.false_ne_true]
  by_cases trailing : path.text.toList.getLast? = some '/'
  · rw [if_pos trailing, if_pos ((getLast?_segments_eq_nil characters).mpr trailing)]
    obtain ⟨before, split⟩ := List.getLast?_eq_some_iff.mp trailing
    simp only [String.toList_append, split, segments_append_slash]
    simp [segments, segments_append_slash]
  · rw [if_neg trailing, if_neg (fun last =>
      trailing ((getLast?_segments_eq_nil characters).mp last))]
    simp [segments_append_slash]

theorem isAbsolute_iff (path : Path) :
    path.isAbsolute = true ↔
      ∃ others, others ≠ [] ∧ segments path.text.toList = [] :: others := by
  unfold isAbsolute
  cases characters : path.text.toList with
  | nil => simp [segments]
  | cons c rest =>
      by_cases slash : c = '/'
      · simp [segments, slash, segments_ne_nil]
      · obtain ⟨first, others, split⟩ := List.exists_cons_of_ne_nil (segments_ne_nil rest)
        simp [segments, slash, split]

theorem isAbsolute_eq_false_of_head {path : Path} {first : List Char}
    {others : List (List Char)} (split : segments path.text.toList = first :: others)
    (named : first ≠ []) : path.isAbsolute = false := by
  refine Bool.eq_false_iff.mpr fun absolute => ?_
  obtain ⟨_, _, same⟩ := (isAbsolute_iff path).mp absolute
  rw [split] at same
  exact named (List.cons.inj same).1

/-! ## Pieces that stand for no step -/

/-- A piece that stands for a step. -/
def isStep (piece : List Char) : Bool :=
  (component? piece).isSome

/-- The names of the pieces that stand for a step. -/
def names (pieces : List (List Char)) : List String :=
  (pieces.filter isStep).map String.ofList

theorem isStep_iff {piece : List Char} : isStep piece = true ↔ piece ≠ [] ∧ piece ≠ ['.'] := by
  unfold isStep component?
  by_cases trivial : piece = [] ∨ piece = ['.']
  · rcases trivial with rfl | rfl <;> simp
  · rw [if_neg trivial]
    split_ifs <;> simpa [not_or] using trivial

theorem names_append (front back : List (List Char)) :
    names (front ++ back) = names front ++ names back := by
  simp [names]

theorem dropTrivial_eq (pieces : List (List Char)) :
    dropTrivial pieces = (pieces.reverse.dropWhile fun piece => !isStep piece).reverse := by
  unfold dropTrivial isStep
  simp

theorem dropTrivial_append (front back : List (List Char)) :
    dropTrivial (front ++ back) =
      if dropTrivial back = [] then dropTrivial front else front ++ dropTrivial back := by
  simp only [dropTrivial_eq, List.reverse_append, List.dropWhile_append, List.isEmpty_iff,
    List.reverse_eq_nil_iff]
  split_ifs <;> simp

theorem dropTrivial_concat {piece : List Char} (step : isStep piece = true)
    (front : List (List Char)) : dropTrivial (front ++ [piece]) = front ++ [piece] := by
  have alone : dropTrivial [piece] = [piece] := by
    simp [dropTrivial_eq, step]
  rw [dropTrivial_append, alone, if_neg (by simp)]

theorem dropTrivial_cons {piece : List Char} (step : isStep piece = true)
    (pieces : List (List Char)) : dropTrivial (piece :: pieces) = piece :: dropTrivial pieces := by
  have alone : dropTrivial [piece] = [piece] := dropTrivial_concat step []
  have split := dropTrivial_append [piece] pieces
  rw [List.singleton_append] at split
  rw [split, alone]
  split_ifs with bare
  · rw [bare]
  · rfl

/-- What is left after trimming is empty or ends with a step, and lacks only trivial pieces. -/
theorem dropTrivial_cases (pieces : List (List Char)) :
    (dropTrivial pieces = [] ∨
      ∃ front last, dropTrivial pieces = front ++ [last] ∧ isStep last = true) ∧
    ∃ trivial, pieces = dropTrivial pieces ++ trivial ∧
      ∀ piece ∈ trivial, isStep piece = false := by
  induction pieces using List.reverseRecOn with
  | nil => exact ⟨Or.inl rfl, [], rfl, by simp⟩
  | append_singleton front last ih =>
      cases step : isStep last with
      | true =>
          rw [dropTrivial_concat step]
          exact ⟨Or.inr ⟨front, last, rfl, step⟩, [], by simp, by simp⟩
      | false =>
          have alone : dropTrivial [last] = [] := by
            simp [dropTrivial_eq, step]
          rw [dropTrivial_append, if_pos alone]
          obtain ⟨shape, trivial, split, every⟩ := ih
          refine ⟨shape, trivial ++ [last], by rw [← List.append_assoc, ← split], ?_⟩
          intro piece member
          rcases List.mem_append.mp member with member | member
          · exact every piece member
          · rw [List.mem_singleton.mp member]
            exact step

theorem mem_of_mem_dropTrivial {piece : List Char} {pieces : List (List Char)}
    (member : piece ∈ dropTrivial pieces) : piece ∈ pieces := by
  obtain ⟨-, trivial, split, -⟩ := dropTrivial_cases pieces
  rw [split]
  exact List.mem_append_left _ member

theorem names_dropTrivial (pieces : List (List Char)) :
    names (dropTrivial pieces) = names pieces := by
  obtain ⟨-, trivial, split, every⟩ := dropTrivial_cases pieces
  have none : names trivial = [] := by
    simp only [names, List.map_eq_nil_iff, List.filter_eq_nil_iff]
    intro piece member
    simp [every piece member]
  conv_rhs => rw [split, names_append, none, List.append_nil]

theorem butLast?_of_dropTrivial {pieces front : List (List Char)} {last : List Char}
    (trimmed : dropTrivial pieces = front ++ [last]) :
    butLast? pieces = some (dropTrivial front) := by
  unfold butLast?
  rw [trimmed]
  simp

theorem joinSegments_cons {pieces : List (List Char)} (nonempty : pieces ≠ [])
    (first : List Char) : joinSegments (first :: pieces) = first ++ '/' :: joinSegments pieces := by
  cases pieces with
  | nil => exact absurd rfl nonempty
  | cons next others => rfl

/-- The parent of a path with a step after its first piece. -/
theorem parent?_of_pieces {path : Path} {first last : List Char}
    {others front : List (List Char)}
    (split : segments path.text.toList = first :: others)
    (trimmed : dropTrivial others = front ++ [last]) :
    ∃ parent, path.parent? = some parent ∧ parent.isAbsolute = path.isAbsolute ∧
      (segments parent.text.toList = first :: dropTrivial front ∨
        first = [] ∧ dropTrivial front = [] ∧ segments parent.text.toList = [[], []]) := by
  have plain : ∀ piece ∈ first :: dropTrivial front, '/' ∉ piece := by
    intro piece member
    have among : piece ∈ segments path.text.toList := by
      rw [split]
      rcases List.mem_cons.mp member with rfl | member
      · exact List.mem_cons_self
      · refine List.mem_cons_of_mem _ (mem_of_mem_dropTrivial ?_)
        rw [trimmed]
        exact List.mem_append_left _ (mem_of_mem_dropTrivial member)
    exact slash_not_mem_of_mem_segments among
  have rebuilt := segments_ofPieces (List.cons_ne_nil _ _) plain
  unfold parent?
  rw [split]
  dsimp only
  rw [butLast?_of_dropTrivial trimmed]
  cases absolute : path.isAbsolute with
  | true =>
      obtain ⟨_, -, same⟩ := (isAbsolute_iff path).mp absolute
      rw [split] at same
      obtain ⟨rfl, -⟩ := List.cons.inj same
      refine ⟨_, rfl, by simp [isAbsolute], ?_⟩
      by_cases bare : dropTrivial front = []
      · exact Or.inr ⟨rfl, bare, by rw [bare]; rfl⟩
      · rw [joinSegments_cons bare] at rebuilt
        exact Or.inl rebuilt
  | false =>
      have named : first ≠ [] := by
        rintro rfl
        have more : others ≠ [] := by
          rintro rfl
          simp [dropTrivial] at trimmed
        rw [(isAbsolute_iff path).mpr ⟨others, more, split⟩] at absolute
        cases absolute
      have relative := isAbsolute_eq_false_of_head rebuilt named
      by_cases dotted : first = ['.']
      · simp only [Bool.false_eq_true, if_false, if_pos dotted]
        exact ⟨_, rfl, relative, Or.inl rebuilt⟩
      · have step : isStep first = true := isStep_iff.mpr ⟨named, dotted⟩
        have whole : dropTrivial (first :: others) = (first :: front) ++ [last] := by
          rw [dropTrivial_cons step, trimmed]
          rfl
        simp only [Bool.false_eq_true, if_false, if_neg dotted, butLast?_of_dropTrivial whole,
          Option.map_some, dropTrivial_cons step]
        exact ⟨_, rfl, relative, Or.inl rebuilt⟩

/-- Without a step after its first piece a path has no parent but the empty path. -/
theorem parent?_of_bare {path parent : Path} {first : List Char} {others : List (List Char)}
    (split : segments path.text.toList = first :: others) (bare : dropTrivial others = [])
    (found : path.parent? = some parent) : parent.text = "" := by
  have none : butLast? others = none := by
    unfold butLast?
    rw [bare]
    rfl
  unfold parent? at found
  rw [split] at found
  dsimp only at found
  split_ifs at found with absolute dotted
  · rw [none] at found
    cases found
  · rw [none] at found
    cases found
    rfl
  · by_cases blank : first = []
    · -- Such a path is empty, or else it would start at the root.
      have alone : dropTrivial (first :: others) = [] := by
        have split := dropTrivial_append [first] others
        rw [List.singleton_append, if_pos bare] at split
        rw [split, blank]
        rfl
      rw [butLast?, alone] at found
      cases found
    · have step : isStep first = true := isStep_iff.mpr ⟨blank, dotted⟩
      have alone : dropTrivial (first :: others) = [] ++ [first] := by
        rw [dropTrivial_cons step, bare]
        rfl
      rw [butLast?_of_dropTrivial alone] at found
      cases found
      rfl

/-! ## A parent is the start of its path -/

theorem joinSegments_mono {front pieces : List (List Char)} (starts : front <+: pieces) :
    joinSegments front <+: joinSegments pieces := by
  induction front generalizing pieces with
  | nil => exact List.nil_prefix
  | cons first more ih =>
      obtain ⟨others, rfl, rest⟩ := List.cons_prefix_iff.mp starts
      by_cases bare : others = []
      · subst bare
        exact List.prefix_nil.mp rest ▸ List.prefix_rfl
      · rw [joinSegments_cons bare]
        by_cases last : more = []
        · subst last
          exact List.prefix_append _ _
        · rw [joinSegments_cons last, List.prefix_append_right_inj]
          exact List.cons_prefix_cons.mpr ⟨rfl, ih rest⟩

theorem dropTrivial_start (pieces : List (List Char)) : dropTrivial pieces <+: pieces := by
  obtain ⟨-, trivial, split, -⟩ := dropTrivial_cases pieces
  exact ⟨trivial, split.symm⟩

theorem butLast?_start {pieces kept : List (List Char)} (found : butLast? pieces = some kept) :
    kept <+: pieces := by
  unfold butLast? at found
  split at found
  · cases found
  · rename_i last before reversed
    cases Option.some.inj found
    have split : dropTrivial pieces = before.reverse ++ [last] := by
      rw [← List.reverse_reverse (dropTrivial pieces), reversed, List.reverse_cons]
    have starts : before.reverse <+: dropTrivial pieces := ⟨[last], split.symm⟩
    exact ((dropTrivial_start _).trans starts).trans (dropTrivial_start pieces)

theorem parent?_start {path parent : Path} (found : path.parent? = some parent) :
    parent.text.toList <+: path.text.toList := by
  have whole := joinSegments_segments path.text.toList
  unfold parent? at found
  split at found
  · cases found
  · rename_i first others split
    rw [split] at whole
    have keeps {kept : List (List Char)} (starts : kept <+: first :: others) :
        joinSegments kept <+: path.text.toList := whole ▸ joinSegments_mono starts
    split_ifs at found with absolute dotted
    · obtain ⟨kept, cut, rfl⟩ := Option.map_eq_some_iff.mp found
      obtain ⟨rest, more, same⟩ := (isAbsolute_iff path).mp absolute
      rw [split] at same
      obtain ⟨rfl, rfl⟩ := List.cons.inj same
      rw [joinSegments_cons more, List.nil_append] at whole
      rw [String.toList_ofList, ← whole]
      exact List.cons_prefix_cons.mpr ⟨rfl, joinSegments_mono (butLast?_start cut)⟩
    · split at found
      · cases Option.some.inj found
        exact List.nil_prefix
      · rename_i kept cut
        cases Option.some.inj found
        rw [String.toList_ofList]
        exact keeps (List.cons_prefix_cons.mpr ⟨rfl, butLast?_start cut⟩)
    · obtain ⟨kept, cut, rfl⟩ := Option.map_eq_some_iff.mp found
      rw [String.toList_ofList]
      exact keeps (butLast?_start cut)

theorem length_segments_le (text : List Char) : (segments text).length ≤ text.length + 1 := by
  induction text with
  | nil => simp [segments]
  | cons c rest ih =>
      rw [segments]
      split_ifs
      · simpa using ih
      · split
        · simp
        · rename_i first others split
          rw [split] at ih
          simp at ih ⊢
          omega

theorem length_names_le (pieces : List (List Char)) : (names pieces).length ≤ pieces.length := by
  rw [names, List.length_map]
  exact List.length_filter_le _ _

end Stagehand.Path
