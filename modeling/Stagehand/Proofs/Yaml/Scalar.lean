import Mathlib.Data.List.TakeWhile
import Stagehand.Proofs.Yaml.Cursor

/-! # Reading scalars

A quoted text is read back as the text, whatever printable characters it has, and the place after it is
in the same line.  A bare word is read back as well, and with it the gap that separates it from the
comma or brace behind it.
-/

set_option autoImplicit false

namespace Stagehand.Yaml

open Cursor

variable {cursor : Cursor} {c : Char} {rest : List Char} {bound : Nat}

/-! ## Gaps -/

theorem gap_of_visible {tabColumn : Nat} {broken : Bool} (ahead : cursor.rest = c :: rest)
    (printable : IsPrintable c) (visible : c ≠ ' ') :
    gap tabColumn (bound + 1) broken cursor = some ⟨[], [], cursor⟩ := by
  simp [gap, peek?, ahead, isBlank_of_printable printable, visible, isBreak_of_printable printable]

theorem gap_spaces {spaces : List Char} (blank : ∀ c ∈ spaces, c = ' ')
    (ahead : cursor.rest = spaces ++ c :: rest) (printable : IsPrintable c) (visible : c ≠ ' ')
    (enough : spaces.length < bound) :
    ∃ after, gap 0 bound false cursor = some ⟨spaces, [], after⟩ ∧ Passes spaces cursor after := by
  induction spaces generalizing cursor bound with
  | nil =>
      obtain ⟨less, rfl⟩ := Nat.exists_eq_add_one.mpr enough
      exact ⟨cursor, gap_of_visible ahead printable visible, rfl, rfl, rfl, rfl⟩
  | cons space others ih =>
      obtain ⟨rfl, later⟩ := List.forall_mem_cons.mp blank
      obtain ⟨less, rfl⟩ := Nat.exists_eq_add_one.mpr (Nat.zero_lt_of_lt enough)
      have step := passes_one ahead (by decide)
      have behind := rest_advance_one ahead
      obtain ⟨after, found, passed⟩ := ih later behind (by simpa using enough)
      refine ⟨after, ?_, step.trans passed⟩
      simp [gap, peek?, ahead, isBlank, found]

theorem gap_layout {layout : List Char} (broken : Bool) (indents : ∀ c ∈ layout, IsLayout c)
    (ahead : cursor.rest = layout ++ c :: rest) (printable : IsPrintable c) (visible : c ≠ ' ')
    (enough : layout.length < bound) :
    ∃ found, gap 0 bound broken cursor = some found ∧ found.after.rest = c :: rest := by
  induction layout generalizing cursor bound broken with
  | nil =>
      obtain ⟨less, rfl⟩ := Nat.exists_eq_add_one.mpr enough
      exact ⟨_, gap_of_visible ahead printable visible, ahead⟩
  | cons first others ih =>
      obtain ⟨here, later⟩ := List.forall_mem_cons.mp indents
      obtain ⟨less, rfl⟩ := Nat.exists_eq_add_one.mpr (Nat.zero_lt_of_lt enough)
      have fewer : others.length < less := by simpa using enough
      rcases here with rfl | rfl
      · obtain ⟨found, read, stop⟩ := ih broken later (rest_advance_one ahead) fewer
        cases broken <;> simp_all [gap, peek?, isBlank]
      · have below : cursor.nextLine.rest = others ++ c :: rest := by simp [nextLine, ahead]
        obtain ⟨found, read, stop⟩ := ih true later below fewer
        simp_all [gap, peek?, isBlank, isBreak]

/-! ## Quoted texts -/

theorem escaped_of_plain (quote : c ≠ '"') (escape : c ≠ '\\') : escaped c = [c] := by
  simp [escaped, quote, escape]

theorem flatMap_escaped_spaces {spaces : List Char} (blank : ∀ c ∈ spaces, c = ' ') :
    spaces.flatMap escaped = spaces := by
  induction spaces with
  | nil => rfl
  | cons space others ih =>
      obtain ⟨rfl, later⟩ := List.forall_mem_cons.mp blank
      rw [List.flatMap_cons, ih later]
      rfl

theorem length_le_flatMap_escaped (chars : List Char) :
    chars.length ≤ (chars.flatMap escaped).length := by
  induction chars with
  | nil => exact Nat.le_refl _
  | cons c others ih =>
      have single : 1 ≤ (escaped c).length := by
        unfold escaped
        split <;> simp
      rw [List.flatMap_cons, List.length_append, List.length_cons]
      omega

theorem printable_of_mem_escaped {d : Char} (printable : IsPrintable c) (member : d ∈ escaped c) :
    IsPrintable d := by
  unfold escaped at member
  split at member
  · simp only [List.mem_cons, List.not_mem_nil, or_false] at member
    rcases member with rfl | rfl
    · decide
    · exact printable
  · rwa [List.mem_singleton.mp member]

theorem printable_of_mem_quotation {text : String} {d : Char}
    (printable : AllPrintable text.toList) (member : d ∈ quotation text) :
    IsPrintable d := by
  simp only [quotation, List.mem_cons, List.mem_append, List.mem_flatMap, List.not_mem_nil,
    or_false] at member
  rcases member with rfl | ⟨c, inside, among⟩ | rfl
  · decide
  · exact printable_of_mem_escaped (printable c inside) among
  · decide

theorem quotedRest_spaces {spaces : List Char} (blank : ∀ c ∈ spaces, c = ' ') (nonempty : spaces ≠ [])
    (ahead : cursor.rest = spaces ++ c :: rest) (printable : IsPrintable c) (visible : c ≠ ' ')
    (inside : 0 < cursor.column) (enough : spaces.length ≤ bound) :
    ∃ middle, Passes spaces cursor middle ∧
      quotedRest .double (bound + 1) cursor =
        (quotedRest .double bound middle).map (prepend spaces) := by
  obtain ⟨first, others, rfl⟩ := List.exists_cons_of_ne_nil nonempty
  obtain ⟨rfl, -⟩ := List.forall_mem_cons.mp blank
  obtain ⟨middle, found, passed⟩ :=
    gap_spaces blank ahead printable visible (Nat.lt_succ_of_le enough)
  refine ⟨middle, passed, ?_⟩
  rw [quotedRest, atDocumentMark_of_column inside, ahead]
  simp [isBlank, found, Gap.text]

theorem quotedRest_char (bound : Nat) (printable : IsPrintable c) (visible : c ≠ ' ')
    (ahead : cursor.rest = escaped c ++ rest) (inside : 0 < cursor.column) :
    ∃ middle, Passes (escaped c) cursor middle ∧
      quotedRest .double (bound + 1) cursor =
        (quotedRest .double bound middle).map (prepend [c]) := by
  by_cases marked : c = '"' ∨ c = '\\'
  · rw [escaped, if_pos marked] at ahead ⊢
    have escape := passes_one ahead (by decide)
    have behind := rest_advance_one ahead
    refine ⟨_, escape.trans (passes_one behind printable), ?_⟩
    rw [quotedRest, atDocumentMark_of_column inside, ahead]
    rcases marked with rfl | rfl <;>
      simp [isBlank, isBreak, Quote.char, escape?, peek?, behind, escapedChar?]
  · obtain ⟨quote, escape⟩ := not_or.mp marked
    rw [escaped_of_plain quote escape] at ahead ⊢
    refine ⟨_, passes_one ahead printable, ?_⟩
    rw [quotedRest, atDocumentMark_of_column inside, ahead]
    simp [isBlank_of_printable printable, visible, isBreak_of_printable printable, quote, escape,
      Quote.char]

/-- The first character of a quoted text after spaces, or its closing quote. -/
theorem exists_visible {chars : List Char} (printable : AllPrintable chars)
    (stops : chars.head? ≠ some ' ') (rest : List Char) :
    ∃ c others, chars.flatMap escaped ++ '"' :: rest = c :: others ∧ IsPrintable c ∧ c ≠ ' ' := by
  cases chars with
  | nil => exact ⟨'"', rest, rfl, by decide, by decide⟩
  | cons c others =>
      rw [List.flatMap_cons, escaped]
      split
      · exact ⟨'\\', _, rfl, by decide, by decide⟩
      · exact ⟨c, _, rfl, printable c List.mem_cons_self, by simpa using stops⟩

/-- A quoted text is read in parts: a run of spaces, or one other character. -/
theorem quotedRest_part {chars : List Char} (unfinished : chars ≠ [])
    (printable : AllPrintable chars)
    (ahead : cursor.rest = chars.flatMap escaped ++ '"' :: rest) (inside : 0 < cursor.column)
    (enough : cursor.rest.length ≤ bound) :
    ∃ front others middle, chars = front ++ others ∧ front ≠ [] ∧
      Passes (front.flatMap escaped) cursor middle ∧
      quotedRest .double (bound + 1) cursor =
        (quotedRest .double bound middle).map (prepend front) := by
  obtain ⟨c, others, rfl⟩ := List.exists_cons_of_ne_nil unfinished
  by_cases space : c = ' '
  · have blank : ∀ d ∈ (c :: others).takeWhile (· = ' '), d = ' ' :=
      fun d member => by simpa using List.mem_takeWhile_imp member
    have split := @List.takeWhile_append_dropWhile _ (· = ' ') (c :: others)
    have nonempty : (c :: others).takeWhile (· = ' ') ≠ [] := by
      rw [List.takeWhile_cons_of_pos (by simpa using space)]
      exact List.cons_ne_nil _ _
    have stops : ((c :: others).dropWhile (· = ' ')).head? ≠ some ' ' := by
      intro found
      have kept := List.head?_dropWhile_not (· = ' ') (c :: others)
      rw [found] at kept
      simp at kept
    generalize (c :: others).takeWhile (· = ' ') = spaces at *
    generalize (c :: others).dropWhile (· = ' ') = later at *
    rw [← split] at ahead printable ⊢
    obtain ⟨d, tail, next, plain, visible⟩ :=
      exists_visible (fun d member => printable d (List.mem_append_right _ member)) stops rest
    rw [List.flatMap_append, flatMap_escaped_spaces blank, List.append_assoc, next] at ahead
    have fits : spaces.length ≤ bound := by
      rw [ahead, List.length_append] at enough
      omega
    obtain ⟨middle, passed, step⟩ :=
      quotedRest_spaces blank nonempty ahead plain visible inside fits
    exact ⟨spaces, later, middle, rfl, nonempty, by rwa [flatMap_escaped_spaces blank], step⟩
  · obtain ⟨middle, passed, step⟩ := quotedRest_char bound (printable c List.mem_cons_self) space
      (by rw [ahead, List.flatMap_cons, List.append_assoc]) inside
    exact ⟨[c], others, middle, rfl, List.cons_ne_nil _ _, by simpa using passed, step⟩

theorem quotedRest_escaped {chars : List Char} (printable : AllPrintable chars)
    (ahead : cursor.rest = chars.flatMap escaped ++ '"' :: rest) (inside : 0 < cursor.column)
    (enough : cursor.rest.length < bound) :
    ∃ after, quotedRest .double bound cursor = some (chars, after) ∧
      Passes (chars.flatMap escaped ++ ['"']) cursor after := by
  induction bound generalizing chars cursor with
  | zero => exact absurd enough (Nat.not_lt_zero _)
  | succ bound ih =>
      by_cases finished : chars = []
      · subst finished
        refine ⟨cursor.advance 1, ?_, passes_one ahead (by decide)⟩
        rw [quotedRest, atDocumentMark_of_column inside, ahead]
        simp [isBlank, isBreak, Quote.char]
      · obtain ⟨front, others, middle, rfl, nonempty, passed, step⟩ :=
          quotedRest_part finished printable ahead inside (Nat.le_of_lt_succ enough)
        have behind : middle.rest = others.flatMap escaped ++ '"' :: rest := by
          have whole := passed.rest.symm.trans ahead
          rw [List.flatMap_append, List.append_assoc] at whole
          exact List.append_cancel_left whole
        have fewer : middle.rest.length < bound := by
          have shorter := length_le_flatMap_escaped front
          have positive := List.length_pos_iff.mpr nonempty
          rw [passed.rest, List.length_append] at enough
          omega
        obtain ⟨after, read, last⟩ := ih (fun c member => printable c (List.mem_append_right _ member))
          behind (by rw [passed.column]; omega) fewer
        refine ⟨after, ?_, ?_⟩
        · rw [step, read]
          rfl
        · rw [List.flatMap_append, List.append_assoc]
          exact passed.trans last

/-- A quoted text is read back. -/
theorem quoted_quotation {text : String} (printable : AllPrintable text.toList)
    (ahead : cursor.rest = quotation text ++ rest) (enough : cursor.rest.length ≤ bound) :
    ∃ after, quoted .double bound cursor = some (text.toList, after) ∧
      Passes (quotation text) cursor after := by
  rw [quotation, List.cons_append, List.append_assoc] at ahead
  have first := passes_one ahead (by decide)
  have behind := rest_advance_one ahead
  have fewer : (cursor.advance 1).rest.length < bound := by
    rw [first.rest, List.singleton_append, List.length_cons] at enough
    omega
  obtain ⟨after, read, last⟩ :=
    quotedRest_escaped printable behind (Nat.succ_pos cursor.column) fewer
  exact ⟨after, read, first.trans last⟩

/-! ## Bare words -/

theorem isFlowMark_of_isAlphanum (plain : c.isAlphanum = true) : isFlowMark c = false := by
  simp [isFlowMark, ne_of_isAlphanum plain]

/-- After a bare word come spaces and line feeds and then a comma or a brace. -/
structure Closes (rest : List Char) (mark : Char) (others : List Char) : Prop where
  split : ∃ layout, rest = layout ++ mark :: others ∧ ∀ c ∈ layout, IsLayout c
  mark : mark = ',' ∨ mark = '}'

namespace Closes

variable {mark : Char} {others : List Char}

theorem printable (closes : Closes rest mark others) : IsPrintable mark := by
  rcases closes.mark with rfl | rfl <;> decide

theorem visible (closes : Closes rest mark others) : mark ≠ ' ' := by
  rcases closes.mark with rfl | rfl <;> decide

theorem plain_mark (closes : Closes rest mark others) (ahead : cursor.rest = mark :: others) :
    plain true 0 (bound + 1) cursor = some ⟨[], cursor, false⟩ := by
  have flow : isFlowMark mark = true := by rcases closes.mark with rfl | rfl <;> rfl
  have colon : mark ≠ ':' := by rcases closes.mark with rfl | rfl <;> decide
  simp [plain, peek?, ahead, isBlank_of_printable closes.printable, closes.visible,
    isBreak_of_printable closes.printable, isBadColon, colon, endsPlain, flow]

/-- After a bare word nothing is read but the gap behind it. -/
theorem plain_rest (closes : Closes rest mark others) (ahead : cursor.rest = rest)
    (enough : rest.length < bound) :
    ∃ found, plain true 0 bound cursor = some found ∧ found.text = [] ∧
      found.after.rest = mark :: others := by
  obtain ⟨less, rfl⟩ := Nat.exists_eq_add_one.mpr (Nat.zero_lt_of_lt enough)
  obtain ⟨⟨layout, rfl, indents⟩, -⟩ := id closes
  cases layout with
  | nil => exact ⟨_, closes.plain_mark ahead, rfl, ahead⟩
  | cons c later =>
      have shorter : (c :: later).length < less + 1 := by
        rw [List.length_append] at enough
        omega
      obtain ⟨gap, read, behind⟩ :=
        gap_layout false indents ahead closes.printable closes.visible shorter
      have inside : isBlank c = true ∨ isBreak c = true := by
        rcases (List.forall_mem_cons.mp indents).1 with rfl | rfl <;> decide
      have goesOn : stopsPlain true 0 gap.after = false := by
        rcases closes.mark with rfl | rfl <;>
          simp [stopsPlain, atDocumentMark, atMark, behind, peek?]
      obtain ⟨fewer, rfl⟩ : ∃ fewer, less = fewer + 1 :=
        Nat.exists_eq_succ_of_ne_zero (by rintro rfl; simp at shorter)
      refine ⟨⟨[], gap.after, gap.breaks ≠ []⟩, ?_, rfl, behind⟩
      rw [plain, peek?, ahead]
      simp [inside, read, goesOn, closes.plain_mark behind]

end Closes

/-- A bare word is read back, and the place after it is before the mark that closes it. -/
theorem plain_word {word others : List Char} {mark : Char} (bare : ∀ c ∈ word, c.isAlphanum = true)
    (ahead : cursor.rest = word ++ rest) (closes : Closes rest mark others)
    (enough : cursor.rest.length < bound) :
    ∃ found, plain true 0 bound cursor = some found ∧ found.text = word ∧
      found.after.rest = mark :: others := by
  induction word generalizing cursor bound with
  | nil => exact closes.plain_rest ahead (by rwa [ahead] at enough)
  | cons c later ih =>
      obtain ⟨less, rfl⟩ := Nat.exists_eq_add_one.mpr (Nat.zero_lt_of_lt enough)
      obtain ⟨first, others⟩ := List.forall_mem_cons.mp bare
      have printable := printable_of_isAlphanum first
      have visible : c ≠ ' ' := ne_of_isAlphanum first (by decide)
      have colon : c ≠ ':' := ne_of_isAlphanum first (by decide)
      have behind : (cursor.advance 1).rest = later ++ rest := rest_advance_one ahead
      have fewer : (cursor.advance 1).rest.length < less := by
        rw [ahead, List.cons_append, List.length_cons, ← behind] at enough
        omega
      obtain ⟨found, read, text, after⟩ := ih others behind fewer
      refine ⟨{ found with text := c :: found.text }, ?_, by rw [text], after⟩
      simp [plain, peek?, ahead, isBlank_of_printable printable, visible,
        isBreak_of_printable printable, isBadColon, colon, endsPlain,
        isFlowMark_of_isAlphanum first, read]

end Stagehand.Yaml
