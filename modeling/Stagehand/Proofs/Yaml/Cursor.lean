import Stagehand.Proofs.Yaml.Datum
import Stagehand.Yaml.Scalar

/-! # Steps through a text

A cursor steps over printable characters within a line, and each takes one byte and one column.  Over
spaces and line feeds it comes to the next piece, wherever that stands.
-/

set_option autoImplicit false

namespace Stagehand.Yaml

/-! ## Characters -/

section Characters

variable {c : Char}

theorem isBreak_of_printable (printable : IsPrintable c) : isBreak c = false := by
  obtain ⟨low, high⟩ := printable
  have feed : c ≠ '\n' := by rintro rfl; exact absurd low (by decide)
  have back : c ≠ '\r' := by rintro rfl; exact absurd low (by decide)
  simp only [isBreak, feed, back, decide_false, Bool.false_or, Bool.or_eq_false_iff,
    decide_eq_false_iff_not]
  omega

theorem isBlank_of_printable (printable : IsPrintable c) : isBlank c = decide (c = ' ') := by
  have tab : c ≠ '\t' := by rintro rfl; exact absurd printable.1 (by decide)
  simp [isBlank, tab]

theorem utf8Size_of_printable (printable : IsPrintable c) : c.utf8Size = 1 := by
  have small : c.val ≤ 0x7F := by
    rw [UInt32.le_iff_toNat_le]
    exact Nat.le_trans printable.2 (by decide)
  exact Char.utf8Size_eq_one_iff.mpr small

theorem isAllowed_of_printable (printable : IsPrintable c) : isAllowed c = true := by
  obtain ⟨low, high⟩ := printable
  simp [isAllowed, low, high]

theorem isAllowed_of_layout (layout : IsLayout c) : isAllowed c = true := by
  rcases layout with rfl | rfl <;> decide

/-- A character that a piece, or the colon of a name, can begin with. -/
def IsStart (c : Char) : Prop :=
  c.isAlphanum = true ∨ c ∈ ['{', '}', ',', ':', '"']

theorem printable_of_isAlphanum (plain : c.isAlphanum = true) : IsPrintable c := by
  have within {low high : Char} (range : low.val ≤ c.val ∧ c.val ≤ high.val) :
      low.toNat ≤ c.toNat ∧ c.toNat ≤ high.toNat :=
    ⟨UInt32.le_iff_toNat_le.mp range.1, UInt32.le_iff_toNat_le.mp range.2⟩
  rcases (Bool.or_eq_true _ _).mp plain with letter | digit
  · rcases (Bool.or_eq_true _ _).mp letter with upper | lower
    · obtain ⟨low, high⟩ := @within 'A' 'Z' (of_decide_eq_true upper)
      exact ⟨Nat.le_trans (by decide) low, Nat.le_trans high (by decide)⟩
    · obtain ⟨left, right⟩ := (Bool.and_eq_true _ _).mp lower
      obtain ⟨low, high⟩ := @within 'a' 'z' ⟨of_decide_eq_true left, of_decide_eq_true right⟩
      exact ⟨Nat.le_trans (by decide) low, Nat.le_trans high (by decide)⟩
  · obtain ⟨left, right⟩ := (Bool.and_eq_true _ _).mp digit
    obtain ⟨low, high⟩ := @within '0' '9' ⟨of_decide_eq_true left, of_decide_eq_true right⟩
    exact ⟨Nat.le_trans (by decide) low, Nat.le_trans high (by decide)⟩

theorem ne_of_isAlphanum {mark : Char} (plain : c.isAlphanum = true)
    (not : mark.isAlphanum = false) : c ≠ mark := by
  rintro rfl
  exact Bool.false_ne_true (not.symm.trans plain)

theorem IsStart.printable (start : IsStart c) : IsPrintable c := by
  rcases start with plain | mark
  · exact printable_of_isAlphanum plain
  · simp only [List.mem_cons, List.not_mem_nil, or_false] at mark
    rcases mark with rfl | rfl | rfl | rfl | rfl <;> decide

theorem IsStart.ne (start : IsStart c) (other : Char) (plain : other.isAlphanum = false)
    (mark : other ∉ ['{', '}', ',', ':', '"']) : c ≠ other := by
  rcases start with holds | holds
  · exact ne_of_isAlphanum holds plain
  · rintro rfl
    exact mark holds

theorem IsStart.not_layout (start : IsStart c) : ¬IsLayout c := by
  rintro (rfl | rfl) <;> simp [IsStart] at start

end Characters

namespace Cursor

variable {cursor after : Cursor} {front rest : List Char} {c : Char}

/-! ## Within a line -/

/-- The second place is behind the given characters, in the same line. -/
structure Passes (front : List Char) (cursor after : Cursor) : Prop where
  rest : cursor.rest = front ++ after.rest
  line : after.line = cursor.line
  bytes : after.bytes = cursor.bytes + front.length
  column : after.column = cursor.column + front.length

theorem Passes.trans {back : List Char} {last : Cursor} (first : Passes front cursor after)
    (second : Passes back after last) : Passes (front ++ back) cursor last where
  rest := by rw [first.rest, second.rest, List.append_assoc]
  line := second.line.trans first.line
  bytes := by rw [second.bytes, first.bytes, List.length_append, Nat.add_assoc]
  column := by rw [second.column, first.column, List.length_append, Nat.add_assoc]

theorem encodedSize_of_printable (printable : AllPrintable front) :
    encodedSize front = front.length := by
  have sum (size : Nat) :
      front.foldl (fun size c => size + c.utf8Size) size = size + front.length := by
    induction front generalizing size with
    | nil => rfl
    | cons c others ih =>
        obtain ⟨first, later⟩ := List.forall_mem_cons.mp printable
        rw [List.foldl_cons, ih later, utf8Size_of_printable first, List.length_cons]
        omega
  rw [encodedSize, sum, Nat.zero_add]

theorem rest_advance (ahead : cursor.rest = front ++ rest) :
    (cursor.advance front.length).rest = rest := by
  simp [advance, ahead]

theorem rest_advance_one (ahead : cursor.rest = c :: rest) : (cursor.advance 1).rest = rest :=
  @rest_advance cursor [c] rest ahead

theorem passes_advance (ahead : cursor.rest = front ++ rest)
    (printable : AllPrintable front) :
    Passes front cursor (cursor.advance front.length) where
  rest := by rw [rest_advance ahead, ahead]
  line := rfl
  bytes := by
    rw [advance, ahead, List.take_left]
    exact congrArg _ (encodedSize_of_printable printable)
  column := rfl

theorem passes_one (ahead : cursor.rest = c :: rest) (printable : IsPrintable c) :
    Passes [c] cursor (cursor.advance 1) :=
  @passes_advance cursor [c] rest ahead (List.forall_mem_singleton.mpr printable)

theorem skipWhile_append {test : Char → Bool} (holds : ∀ c ∈ front, test c = true)
    (ahead : cursor.rest = front ++ rest) (stops : ∀ c, rest.head? = some c → test c = false) :
    cursor.skipWhile test = cursor.advance front.length := by
  have behind : rest.takeWhile test = [] := by
    cases rest with
    | nil => rfl
    | cons c others => exact List.takeWhile_cons_of_neg (by simp [stops c rfl])
  rw [skipWhile, span, ahead, List.takeWhile_append_of_pos holds, behind, List.append_nil]

theorem atDocumentMark_of_column (inside : 0 < cursor.column) : cursor.atDocumentMark = false := by
  simp [atDocumentMark, atMark, Nat.ne_of_gt inside]

theorem atMark_of_ne {mark : Char} (ahead : cursor.rest = c :: rest) (other : c ≠ mark) :
    cursor.atMark mark = false := by
  simp [atMark, ahead, Ne.symm other]

end Cursor
end Stagehand.Yaml
