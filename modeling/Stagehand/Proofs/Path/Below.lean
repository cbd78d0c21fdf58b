import Mathlib.Data.List.Basic
import Stagehand.Proofs.Path.Segments

/-! # Paths below a path

A path lies below another if its text continues the other's with pieces that only lead down.  The
directories of a job and the places of its objects are such paths, and so are their parents until
nothing of the continuation is left.
-/

set_option autoImplicit false

namespace Stagehand.Path

/-- Pieces that lead down: the first stands for a step, none leads up, and no slash follows. -/
structure LeadsDown (pieces : List (List Char)) : Prop where
  starts : ∃ first others, pieces = first :: others ∧ isStep first = true
  plain : ∀ piece ∈ pieces, piece ≠ ['.', '.']
  ends : pieces.getLast? ≠ some []

/-- The path continues a base with pieces that lead down. -/
structure Below (base : Path) (pieces : List (List Char)) (path : Path) : Prop where
  split : segments path.text.toList = base.leading ++ pieces
  down : LeadsDown pieces

theorem LeadsDown.ne_nil {pieces : List (List Char)} (down : LeadsDown pieces) : pieces ≠ [] := by
  obtain ⟨first, others, rfl, -⟩ := down.starts
  simp

theorem LeadsDown.names_ne_nil {pieces : List (List Char)} (down : LeadsDown pieces) :
    names pieces ≠ [] := by
  obtain ⟨first, others, rfl, step⟩ := down.starts
  simp [names, step]

theorem LeadsDown.append {front back : List (List Char)} (first : LeadsDown front)
    (second : LeadsDown back) : LeadsDown (front ++ back) where
  starts := by
    obtain ⟨piece, others, rfl, step⟩ := first.starts
    exact ⟨piece, others ++ back, rfl, step⟩
  plain := by
    intro piece member
    rcases List.mem_append.mp member with member | member
    · exact first.plain piece member
    · exact second.plain piece member
  ends := by
    rw [List.getLast?_append_of_ne_nil _ second.ne_nil]
    exact second.ends

theorem LeadsDown.singleton {piece : List Char} (step : isStep piece = true)
    (plain : piece ≠ ['.', '.']) : LeadsDown [piece] where
  starts := ⟨piece, [], rfl, step⟩
  plain := by simpa using plain
  ends := by simpa using (isStep_iff.mp step).1

theorem LeadsDown.eq_singleton {pieces : List (List Char)} {name : String}
    (down : LeadsDown pieces) (single : names pieces = [name]) {last : List Char}
    (ends : pieces.getLast? = some last) (step : isStep last = true) :
    ∃ piece, pieces = [piece] := by
  obtain ⟨first, others, rfl, firstStep⟩ := down.starts
  cases others with
  | nil => exact ⟨first, rfl⟩
  | cons next more =>
      have member : last ∈ next :: more := by
        rw [List.getLast?_cons_cons] at ends
        exact List.mem_of_getLast? ends
      have named : String.ofList last ∈ names (next :: more) :=
        List.mem_map_of_mem (List.mem_filter.mpr ⟨member, step⟩)
      have rest : names (next :: more) = [] := by
        have split := names_append [first] (next :: more)
        rw [List.singleton_append, single] at split
        simpa [names, firstStep] using (congrArg List.tail split).symm
      rw [rest] at named
      cases named

/-! ## Below a base -/

/-- The first piece of a path that is not empty stays in front of what is joined to it. -/
theorem leading_head {base : Path} (nonempty : base.text ≠ "") :
    ∃ first others rest, base.leading = first :: others ∧
      segments base.text.toList = first :: rest ∧ (first = [] → rest ≠ []) := by
  obtain ⟨first, rest, split⟩ := List.exists_cons_of_ne_nil (segments_ne_nil base.text.toList)
  have more : first = [] → rest ≠ [] := by
    rintro rfl rfl
    have whole := joinSegments_segments base.text.toList
    rw [split] at whole
    simp only [joinSegments] at whole
    simp [← String.toList_inj, ← whole] at nonempty
  unfold leading
  split_ifs with trailing
  · rw [split] at trailing ⊢
    cases rest with
    | nil =>
        have bare : first = [] := by simpa using trailing
        exact absurd rfl (more bare)
    | cons next later => exact ⟨first, _, _, List.dropLast_cons_cons, rfl, more⟩
  · exact ⟨first, rest, rest, split, split, more⟩

namespace Below

variable {base path : Path} {pieces : List (List Char)}

theorem isAbsolute_eq (below : Below base pieces path) (nonempty : base.text ≠ "") :
    path.isAbsolute = base.isAbsolute := by
  obtain ⟨first, others, rest, front, whole, more⟩ := leading_head nonempty
  have split := below.split
  rw [front, List.cons_append] at split
  by_cases bare : first = []
  · subst bare
    have continued : others ++ pieces ≠ [] := by simp [below.down.ne_nil]
    rw [(isAbsolute_iff path).mpr ⟨_, continued, split⟩,
      (isAbsolute_iff base).mpr ⟨_, more rfl, whole⟩]
  · rw [isAbsolute_eq_false_of_head split bare, isAbsolute_eq_false_of_head whole bare]

theorem getLast?_segments (below : Below base pieces path) :
    (segments path.text.toList).getLast? ≠ some [] := by
  rw [below.split, List.getLast?_append_of_ne_nil _ below.down.ne_nil]
  exact below.down.ends

theorem text_ne_empty (below : Below base pieces path) : path.text ≠ "" := by
  intro empty
  apply below.getLast?_segments
  rw [empty]
  rfl

theorem leading_eq (below : Below base pieces path) :
    path.leading = segments path.text.toList := by
  unfold leading
  exact if_neg below.getLast?_segments

end Below

theorem below_join {base : Path} {child : String} (nonempty : base.text ≠ "")
    (relative : (Path.mk child).isAbsolute = false)
    (down : LeadsDown (segments child.toList)) :
    Below base (segments child.toList) (base.join child) :=
  ⟨segments_join nonempty relative, down⟩

theorem Below.join {base path : Path} {pieces : List (List Char)} {child : String}
    (below : Below base pieces path) (relative : (Path.mk child).isAbsolute = false)
    (down : LeadsDown (segments child.toList)) :
    Below base (pieces ++ segments child.toList) (path.join child) where
  split := by
    rw [segments_join below.text_ne_empty relative, below.leading_eq, below.split,
      List.append_assoc]
  down := below.down.append down

/-- A path that names the same place as the base, without the trivial pieces at its end. -/
structure Trims (base path : Path) : Prop where
  absolute : path.isAbsolute = base.isAbsolute
  split : ∃ first others, base.leading = first :: others ∧
    (segments path.text.toList = first :: dropTrivial others ∨
      first = [] ∧ dropTrivial others = [] ∧ segments path.text.toList = [[], []])

/-- The parent of a path below a base lies below the base itself, one name higher up, or trims the
base if there was only one name. -/
theorem Below.parent {base path : Path} {pieces : List (List Char)}
    (below : Below base pieces path) (nonempty : base.text ≠ "") :
    ∃ parent, path.parent? = some parent ∧
      ((∃ fewer last, Below base fewer parent ∧ (∃ piece, fewer.getLast? = some piece ∧
          isStep piece = true) ∧ names pieces = names fewer ++ [last]) ∨
        (∃ last, names pieces = [last]) ∧ Trims base parent) := by
  obtain ⟨first, others, rest, front, -, -⟩ := leading_head nonempty
  have split := below.split
  rw [front, List.cons_append] at split
  obtain ⟨shape, trivial, whole, every⟩ := dropTrivial_cases pieces
  have named := below.down.names_ne_nil
  rw [← names_dropTrivial] at named
  rcases shape with bare | ⟨before, last, trimmed, step⟩
  · rw [bare] at named
    exact absurd rfl named
  have trimmedAll : dropTrivial (others ++ pieces) = (others ++ before) ++ [last] := by
    rw [dropTrivial_append, trimmed, if_neg (by simp), List.append_assoc]
  obtain ⟨parent, found, absolute, parts⟩ := parent?_of_pieces split trimmedAll
  refine ⟨parent, found, ?_⟩
  have counted : names pieces = names before ++ [String.ofList last] := by
    rw [← names_dropTrivial, trimmed, names_append]
    simp [names, step]
  obtain ⟨beforeShape, trailing, beforeWhole, -⟩ := dropTrivial_cases before
  rw [dropTrivial_append] at parts
  rcases beforeShape with bare | ⟨deeper, piece, kept, pieceStep⟩
  · right
    have alone : names before = [] := by
      rw [← names_dropTrivial, bare]
      rfl
    rw [if_pos bare] at parts
    refine ⟨⟨_, by rw [counted, alone]; rfl⟩, ?_, first, others, front, parts⟩
    rw [absolute, below.isAbsolute_eq nonempty]
  · left
    have some_ : ¬ dropTrivial before = [] := by simp [kept]
    rw [if_neg some_] at parts
    have sub : ∀ other ∈ dropTrivial before, other ∈ pieces := by
      intro other member
      rw [whole, trimmed, beforeWhole]
      simp [member]
    obtain ⟨firstPiece, morePieces, starts, firstStep⟩ := below.down.starts
    refine ⟨dropTrivial before, String.ofList last, ⟨?_, ?_, ?_, ?_⟩,
      ⟨piece, by simp [kept], pieceStep⟩, by rw [names_dropTrivial, counted]⟩
    · rcases parts with parts | ⟨-, none, -⟩
      · rw [parts, front, List.cons_append]
      · simp [some_] at none
    · obtain ⟨head, tail, cut⟩ := List.exists_cons_of_ne_nil some_
      refine ⟨head, tail, cut, ?_⟩
      have same := whole
      rw [trimmed, beforeWhole, cut, starts] at same
      simp only [List.cons_append, List.cons.injEq] at same
      rw [← same.1]
      exact firstStep
    · exact fun other member => below.down.plain other (sub other member)
    · rw [kept]
      simpa using (isStep_iff.mp pieceStep).1

/-- Right behind a path that ends in a step, the parent is that path exactly as it is written. -/
theorem Below.parent?_of_step {base path : Path} {piece last : List Char}
    (below : Below base [piece] path) (ends : (segments base.text.toList).getLast? = some last)
    (step : isStep last = true) : path.parent? = some base := by
  obtain ⟨filled, -⟩ := isStep_iff.mp step
  obtain ⟨first, others, split⟩ := List.exists_cons_of_ne_nil (segments_ne_nil base.text.toList)
  have whole := below.split
  rw [leading, ends, if_neg (by simpa using filled), split, List.cons_append] at whole
  obtain ⟨_, _, same, pieceStep⟩ := below.down.starts
  obtain ⟨rfl, -⟩ := List.cons.inj same
  obtain ⟨parent, found, -, parts⟩ := parent?_of_pieces whole (dropTrivial_concat pieceStep others)
  -- Nothing is trimmed off the base, since it ends in a step itself.
  have kept : dropTrivial others = others := by
    rcases List.eq_nil_or_concat' others with rfl | ⟨before, final, rfl⟩
    · rfl
    · rw [split, ← List.cons_append, List.getLast?_concat] at ends
      rw [Option.some.inj ends]
      exact dropTrivial_concat step before
  have whole : segments parent.text.toList = segments base.text.toList := by
    rcases parts with parts | ⟨rfl, bare, -⟩
    · rw [parts, kept, split]
    · rw [split, ← kept, bare] at ends
      exact absurd (Option.some.inj ends).symm filled
  have text : parent.text = base.text := String.toList_inj.mp (segments_injective whole)
  exact found.trans (congrArg some (congrArg Path.mk text))

end Stagehand.Path
