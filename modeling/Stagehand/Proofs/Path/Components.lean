import Stagehand.Proofs.Path.Below

/-! # The components of a joined path

The components of a path joined to another follow those of the first, unless the second starts over
at the root or in front of everything.  What lies in a directory, by its path, is told by the
components alone.
-/

set_option autoImplicit false

namespace Stagehand.Path

/-- The path names the directory itself or something inside it. -/
def LiesIn (path directory : Path) : Prop :=
  directory.components <+: path.components

instance (path directory : Path) : Decidable (path.LiesIn directory) :=
  inferInstanceAs (Decidable (_ <+: _))

/-- Neither path lies in the other. -/
def Apart (path other : Path) : Prop :=
  ¬ path.LiesIn other ∧ ¬ other.LiesIn path

instance (path other : Path) : Decidable (path.Apart other) :=
  inferInstanceAs (Decidable (_ ∧ _))

theorem components_of_segments {path : Path} {first : List Char} {others : List (List Char)}
    (split : segments path.text.toList = first :: others) :
    path.components =
      if path.isAbsolute then .root :: others.filterMap component?
      else if first = ['.'] then .here :: others.filterMap component?
      else (first :: others).filterMap component? := by
  unfold components
  rw [split]

theorem isAbsolute_eq_false_iff (text : String) :
    (Path.mk text).isAbsolute = false ↔ text.toList.head? ≠ some '/' := by
  simp [isAbsolute]

/-- The components of a path that does not start over are those of its segments. -/
theorem components_of_relative {text : String} (relative : (Path.mk text).isAbsolute = false)
    (undotted : (segments text.toList).head? ≠ some ['.']) :
    (Path.mk text).components = (segments text.toList).filterMap component? := by
  obtain ⟨first, others, split⟩ := List.exists_cons_of_ne_nil (segments_ne_nil text.toList)
  have plain : first ≠ ['.'] := by simpa [split] using undotted
  rw [components_of_segments split, relative, if_neg Bool.false_ne_true, if_neg plain, split]

/-- A slash at the end of a base adds no component. -/
theorem filterMap_leading {base : Path} {first : List Char} {others rest : List (List Char)}
    (front : base.leading = first :: others) (split : segments base.text.toList = first :: rest) :
    others.filterMap component? = rest.filterMap component? := by
  unfold leading at front
  rw [split] at front
  split_ifs at front with trailing
  · cases rest with
    | nil => cases front
    | cons next more =>
        rw [List.dropLast_cons_cons] at front
        obtain ⟨before, cut⟩ := List.getLast?_eq_some_iff.mp
          ((List.getLast?_cons_cons).symm.trans trailing)
        rw [cut, List.dropLast_concat] at front
        rw [cut, ← (List.cons.inj front).2, List.filterMap_append]
        exact (List.append_nil _).symm
  · rw [(List.cons.inj front).2]

theorem isAbsolute_join {base : Path} {child : String} (written : base.text ≠ "")
    (relative : (Path.mk child).isAbsolute = false) :
    (base.join child).isAbsolute = base.isAbsolute := by
  have nonempty : base.text.toList ≠ [] := by simpa using written
  obtain ⟨c, rest, split⟩ := List.exists_cons_of_ne_nil nonempty
  have filled : base.text.isEmpty = false := by simpa using written
  unfold join
  rw [relative, filled, Bool.or_self, if_neg Bool.false_ne_true]
  unfold isAbsolute
  split_ifs <;> simp [split]

theorem components_join {base : Path} {child : String}
    (relative : (Path.mk child).isAbsolute = false)
    (named : (segments child.toList).head? ≠ some ['.']) :
    (base.join child).components = base.components ++ (Path.mk child).components := by
  have own := components_of_relative relative named
  by_cases written : base.text = ""
  · have start : base.join child = ⟨child⟩ := by simp [join, written]
    have nothing : base.components = [] := by
      simp [components, written, segments, isAbsolute, component?]
    rw [start, nothing, List.nil_append]
  · obtain ⟨first, others, rest, front, split, -⟩ := leading_head written
    have joined := segments_join written relative
    rw [front, List.cons_append] at joined
    rw [components_of_segments joined, components_of_segments split,
      isAbsolute_join written relative, own]
    simp only [List.filterMap_append, filterMap_leading front split, List.filterMap_cons]
    split_ifs
    · rfl
    · rfl
    · cases component? first <;> simp

end Stagehand.Path
