import Mathlib.Data.List.Forall2
import Mathlib.Tactic.Tauto
import Stagehand.Workspace.Name

/-! # Which names can name a directory

A name is a directory name unless it is empty or leads elsewhere: to the directory itself, up from
it, or along several names.  Making the directory name of a workflow leaves the two dotted names and the
empty one as they are and takes the marks out of every other name, so no other workflow is left
without an output directory.  What gets lost is which characters the hyphens of a token stand for, and
nothing else: two names have the same token exactly if they differ in such characters only.
-/

set_option autoImplicit false

namespace Stagehand

/-! ## Directory names -/

/-- Below a directory the name leads to no directory of its own. -/
def LeadsElsewhere (name : String) : Prop :=
  name = "." ∨ name = ".." ∨ '/' ∈ name.toList ∨ '\\' ∈ name.toList ∨ '\x00' ∈ name.toList

instance (name : String) : Decidable (LeadsElsewhere name) :=
  inferInstanceAs (Decidable (_ ∨ _ ∨ _ ∨ _ ∨ _))

theorem isDirectoryName_iff (name : String) :
    isDirectoryName name = true ↔ name ≠ "" ∧ ¬ LeadsElsewhere name := by
  have marks : (name.toList.any fun c => c = '/' || c = '\\' || c = '\x00') = true ↔
      '/' ∈ name.toList ∨ '\\' ∈ name.toList ∨ '\x00' ∈ name.toList := by
    simp only [List.any_eq_true, Bool.or_eq_true, decide_eq_true_eq]
    constructor
    · rintro ⟨c, member, (rfl | rfl) | rfl⟩ <;> simp [member]
    · rintro (member | member | member)
      · exact ⟨_, member, .inl (.inl rfl)⟩
      · exact ⟨_, member, .inl (.inr rfl)⟩
      · exact ⟨_, member, .inr rfl⟩
  simp only [isDirectoryName, LeadsElsewhere, Bool.and_eq_true, Bool.not_eq_true',
    ← Bool.not_eq_true, marks, decide_eq_true_eq, String.isEmpty_iff]
  tauto

/-! ## Tokens -/

/-- The names that make no output directory. -/
def NamesNothing (name : String) : Prop :=
  name = "" ∨ name = "." ∨ name = ".."

instance (name : String) : Decidable (NamesNothing name) :=
  inferInstanceAs (Decidable (_ ∨ _ ∨ _))

theorem isTokenChar_iff (c : Char) :
    isTokenChar c = true ↔ Text.isAlphanumeric c = true ∨ c ∈ ['_', '-', '.', ' '] := by
  simp [isTokenChar, or_assoc]

/-- What stands in a token for a character is one that the token keeps. -/
theorem isTokenChar_shown (c : Char) :
    isTokenChar (if isTokenChar c = true then c else '-') = true := by
  split
  · assumption
  · simp [isTokenChar]

theorem isTokenChar_of_mem_directoryToken {name : String} {c : Char}
    (member : c ∈ (directoryToken name).toList) : isTokenChar c = true := by
  rw [toList_directoryToken] at member
  obtain ⟨letter, -, rfl⟩ := List.mem_map.mp member
  exact isTokenChar_shown letter

/-- Only the characters that the token does not keep are replaced. -/
theorem directoryToken_eq_self_iff (name : String) :
    directoryToken name = name ↔ ∀ c ∈ name.toList, isTokenChar c = true := by
  have kept (c : Char) :
      (if isTokenChar c = true then c else '-') = id c ↔ isTokenChar c = true := by
    constructor
    · intro same
      rw [← id_eq c, ← same]
      exact isTokenChar_shown c
    · exact fun plain => if_pos plain
  have letters := List.map_id name.toList
  rw [← String.toList_inj, toList_directoryToken]
  nth_rewrite 2 [← letters]
  simp only [List.map_inj_left, kept]

theorem directoryToken_directoryToken (name : String) :
    directoryToken (directoryToken name) = directoryToken name :=
  (directoryToken_eq_self_iff _).mpr fun _ => isTokenChar_of_mem_directoryToken

/-- A name of characters that the token keeps is the only one with itself as its token. -/
theorem directoryToken_eq_iff {name dotted : String} (dots : ∀ c ∈ dotted.toList, c = '.') :
    directoryToken name = dotted ↔ name = dotted := by
  rw [← String.toList_inj, ← String.toList_inj, toList_directoryToken]
  generalize dotted.toList = marks at dots ⊢
  generalize name.toList = letters
  induction letters generalizing marks with
  | nil => simp
  | cons letter others ih =>
      cases marks with
      | nil => simp
      | cons mark more =>
          obtain ⟨rfl, later⟩ := List.forall_mem_cons.mp dots
          have kept : (if isTokenChar letter then letter else '-') = '.' ↔ letter = '.' := by
            constructor
            · intro same
              split at same
              · exact same
              · cases same
            · rintro rfl
              simp [isTokenChar]
          rw [List.map_cons, List.cons_eq_cons, List.cons_eq_cons, kept, ih more later]

theorem not_mem_directoryToken {mark : Char} (other : isTokenChar mark = false) (name : String) :
    mark ∉ (directoryToken name).toList := by
  intro member
  have kept := isTokenChar_of_mem_directoryToken member
  rw [other] at kept
  exact Bool.false_ne_true kept

theorem leadsElsewhere_directoryToken (name : String) :
    LeadsElsewhere (directoryToken name) ↔
      directoryToken name = "." ∨ directoryToken name = ".." := by
  have slash : isTokenChar '/' = false := by decide +kernel
  have backslash : isTokenChar '\\' = false := by decide +kernel
  have nul : isTokenChar '\x00' = false := by decide +kernel
  simp only [LeadsElsewhere, not_mem_directoryToken slash, not_mem_directoryToken backslash,
    not_mem_directoryToken nul, or_false]

theorem hasOutputDirectory_iff (name : String) :
    hasOutputDirectory name = true ↔ ¬ NamesNothing name := by
  rw [hasOutputDirectory, isDirectoryName_iff, leadsElsewhere_directoryToken,
    directoryToken_eq_iff (by simp), directoryToken_eq_iff (by simp), ne_eq,
    directoryToken_eq_iff (by simp), NamesNothing, not_or, not_or, not_or]

/-! ## Names with the same token -/

/-- A character whose place in a token is taken by a hyphen. -/
def ShownAsHyphen (c : Char) : Prop :=
  c = '-' ∨ isTokenChar c = false

instance (c : Char) : Decidable (ShownAsHyphen c) :=
  inferInstanceAs (Decidable (_ ∨ _))

/-- The names are equally long and, character by character, the same or both shown as a hyphen. -/
def Confusable (first second : String) : Prop :=
  List.Forall₂ (fun c d => c = d ∨ ShownAsHyphen c ∧ ShownAsHyphen d) first.toList second.toList

instance (first second : String) : Decidable (Confusable first second) :=
  inferInstanceAs (Decidable (List.Forall₂ _ _ _))

/-- Confusable names place by place. -/
theorem confusable_iff (first second : String) :
    Confusable first second ↔ first.length = second.length ∧
      ∀ (position : Nat) (c d : Char), first.toList[position]? = some c →
        second.toList[position]? = some d → c = d ∨ ShownAsHyphen c ∧ ShownAsHyphen d := by
  rw [Confusable, List.forall₂_iff_get, ← String.length_toList, ← String.length_toList]
  refine and_congr_right fun _ => ⟨fun every position c d here there => ?_,
    fun every position inFirst inSecond => ?_⟩
  · obtain ⟨inFirst, rfl⟩ := List.getElem?_eq_some_iff.mp here
    obtain ⟨inSecond, rfl⟩ := List.getElem?_eq_some_iff.mp there
    exact every position inFirst inSecond
  · exact every position _ _ (List.getElem?_eq_getElem inFirst) (List.getElem?_eq_getElem inSecond)

theorem tokenChar_eq_hyphen_iff (c : Char) :
    (if isTokenChar c = true then c else '-') = '-' ↔ ShownAsHyphen c := by
  unfold ShownAsHyphen
  cases isTokenChar c <;> simp

theorem tokenChar_eq_iff (c d : Char) :
    (if isTokenChar c = true then c else '-') = (if isTokenChar d = true then d else '-') ↔
      c = d ∨ ShownAsHyphen c ∧ ShownAsHyphen d := by
  constructor
  · intro same
    by_cases hyphen : (if isTokenChar c = true then c else '-') = '-'
    · exact Or.inr ⟨(tokenChar_eq_hyphen_iff c).mp hyphen,
        (tokenChar_eq_hyphen_iff d).mp (same ▸ hyphen)⟩
    · left
      split_ifs at same hyphen with keptC keptD
      · exact same
      · exact absurd same hyphen
      · exact absurd rfl hyphen
      · exact absurd rfl hyphen
  · rintro (rfl | ⟨first, second⟩)
    · rfl
    · rw [(tokenChar_eq_hyphen_iff c).mpr first, (tokenChar_eq_hyphen_iff d).mpr second]

theorem directoryToken_eq_directoryToken_iff (first second : String) :
    directoryToken first = directoryToken second ↔ Confusable first second := by
  rw [← String.toList_inj, toList_directoryToken, toList_directoryToken, Confusable]
  generalize first.toList = letters
  generalize second.toList = others
  induction letters generalizing others with
  | nil =>
      cases others with
      | nil => simp
      | cons d others => exact iff_of_false (by simp) (by rintro ⟨⟩)
  | cons c letters ih =>
      cases others with
      | nil => exact iff_of_false (by simp) (by rintro ⟨⟩)
      | cons d others =>
          rw [List.map_cons, List.map_cons, List.cons_eq_cons, List.forall₂_cons, ih,
            tokenChar_eq_iff]

theorem confusable_comm {first second : String} :
    Confusable first second ↔ Confusable second first := by
  rw [← directoryToken_eq_directoryToken_iff, ← directoryToken_eq_directoryToken_iff, eq_comm]

end Stagehand
