import Stagehand.FileTree.Resolve
import Stagehand.Proofs.Path.Below

/-! # Following a path past a directory

A path that continues a base is followed to where the base leads and from there through the names
that are left, with as many links to spare as the base did not use.  In a region without links and
without steps up the rest of the way is told by the names alone.
-/

set_option autoImplicit false

namespace Stagehand.FileTree

open Stagehand.Path (segments names isStep LeadsDown Below Trims)

/-! ## The names that are followed -/

/-- The names followed for pieces that something comes after. -/
def entered (pieces : List (List Char)) : List String :=
  (pieces.filter (· ≠ [])).map String.ofList

/-- The names followed for pieces at the end of a path. -/
def stepsOf (pieces : List (List Char)) : List String :=
  (pieces.dropLast.filter (· ≠ []) ++ pieces.getLast?.toList).map String.ofList

theorem stepNames_eq (text : String) : stepNames text = stepsOf (segments text.toList) := rfl

theorem stepsOf_append (front : List (List Char)) {back : List (List Char)}
    (nonempty : back ≠ []) : stepsOf (front ++ back) = entered front ++ stepsOf back := by
  simp [stepsOf, entered, List.dropLast_append_of_ne_nil nonempty,
    List.getLast?_append_of_ne_nil front nonempty]

theorem stepsOf_concat_nil (front : List (List Char)) :
    stepsOf (front ++ [[]]) = entered front ++ [""] := by
  rw [stepsOf_append front (by simp)]
  rfl

theorem stepsOf_eq_entered {pieces : List (List Char)} (ends : pieces.getLast? ≠ some []) :
    stepsOf pieces = entered pieces := by
  induction pieces using List.reverseRecOn with
  | nil => rfl
  | append_singleton front last _ =>
      have named : last ≠ [] := by simpa using ends
      rw [stepsOf_append front (by simp)]
      simp [entered, stepsOf, named]

theorem stepNames_cases (base : Path) :
    stepNames base.text = entered base.leading ∨
      stepNames base.text = entered base.leading ++ [""] := by
  rw [stepNames_eq]
  unfold Path.leading
  split_ifs with trailing
  · right
    obtain ⟨front, split⟩ := List.getLast?_eq_some_iff.mp trailing
    rw [split, stepsOf_concat_nil, List.dropLast_concat]
  · exact Or.inl (stepsOf_eq_entered trailing)

theorem stepNames_below {base path : Path} {pieces : List (List Char)}
    (below : Below base pieces path) :
    stepNames path.text = entered base.leading ++ entered pieces := by
  rw [stepNames_eq, below.split, stepsOf_append _ below.down.ne_nil,
    stepsOf_eq_entered below.down.ends]

/-! ## Following step by step -/

variable {tree : FileTree} {purpose : Purpose}
  {onLink : Location → List String → Except SystemError Spot} {here location : Location}

theorem followWith_singleton (name : String) :
    tree.followWith purpose onLink here [name] = tree.lastStep purpose onLink here name := by
  rw [followWith]

/-- A name that others come after has to lead to a directory. -/
theorem followWith_cons (name : String) {more : List String} (nonempty : more ≠ [])
    (quiet : purpose ≠ .write ∨ more ≠ [""]) :
    tree.followWith purpose onLink here (name :: more) =
      if name = "" ∨ name = "." then tree.followWith purpose onLink here more
      else if name = ".." then tree.followWith purpose onLink here.dropLast more
      else
        match tree.look here name with
        | .error failure => .error failure
        | .ok none => .error .missing
        | .ok (some .directory) => tree.followWith purpose onLink (here ++ [name]) more
        | .ok (some (.file _)) => .error .throughFile
        | .ok (some (.link target)) => onLink (startOf target here) (stepNames target ++ more) := by
  cases more with
  | nil => exact absurd rfl nonempty
  | cons next rest =>
      have loud : ¬ (purpose = .write ∧ next = "" ∧ rest = []) := by
        rintro ⟨writing, rfl, rfl⟩
        rcases quiet with quiet | quiet
        · exact quiet writing
        · exact quiet rfl
      rw [followWith]
      by_cases trivial : name = "" ∨ name = "."
      · rw [if_pos trivial, if_pos trivial]
      by_cases up : name = ".."
      · rw [if_neg trivial, if_neg trivial, if_pos up, if_pos up]
      · rw [if_neg trivial, if_neg trivial, if_neg up, if_neg up]
        exact if_neg loud

theorem follow_zero (tree : FileTree) (purpose : Purpose) :
    tree.follow purpose 0 = tree.followWith purpose fun _ _ => .error .tooManyLinks := rfl

theorem follow_succ (tree : FileTree) (purpose : Purpose) (links : Nat) :
    tree.follow purpose (links + 1) = tree.followWith purpose (tree.follow purpose links) := rfl

/-- Names that lead to a directory. -/
def Leads (tree : FileTree) (onLink : Location → List String → Except SystemError Spot)
    (here : Location) (names : List String) (location : Location) : Prop :=
  tree.followWith .look onLink here names = .ok (.taken location .directory)

theorem leads_nil : tree.Leads onLink here [] location ↔ here = location := by
  simp [Leads, followWith]

/-- One step of a way that leads to a directory, whether it is the last or not. -/
theorem leads_cons (name : String) (more : List String) :
    tree.Leads onLink here (name :: more) location ↔
      if name = "" ∨ name = "." then tree.Leads onLink here more location
      else if name = ".." then tree.Leads onLink here.dropLast more location
      else
        tree.look here name = .ok (some .directory) ∧
          tree.Leads onLink (here ++ [name]) more location ∨
        ∃ target, tree.look here name = .ok (some (.link target)) ∧
          onLink (startOf target here) (stepNames target ++ more) =
            .ok (.taken location .directory) := by
  unfold Leads
  by_cases last : more = []
  · subst last
    rw [followWith_singleton, lastStep]
    simp only [reduceCtorEq, if_false]
    split_ifs with trivial up
    · rfl
    · rfl
    · rcases seen : tree.look here name with failure | (_ | _ | _ | target) <;>
        simp [followWith]
  · rw [followWith_cons name last (Or.inl (by simp))]
    split_ifs with trivial up
    · rfl
    · rfl
    · rcases seen : tree.look here name with failure | (_ | _ | _ | target) <;> simp

/-- The way past a directory that a list of names leads to. -/
def Passes (tree : FileTree) (location : Location)
    (follow : Purpose → List String → Except SystemError Spot) : Prop :=
  ∃ fewer, ∀ purpose rest, rest ≠ [] → rest ≠ [""] →
    follow purpose rest = tree.follow purpose fewer location rest

theorem followWith_append {links : Nat}
    {onLook : Location → List String → Except SystemError Spot}
    {onLink : Purpose → Location → List String → Except SystemError Spot}
    (self : ∀ purpose, tree.followWith purpose (onLink purpose) = tree.follow purpose links)
    (through : ∀ start names, onLook start names = .ok (.taken location .directory) →
      tree.Passes location fun purpose rest => onLink purpose start (names ++ rest))
    (names : List String) (here : Location) (leads : tree.Leads onLook here names location) :
    tree.Passes location fun purpose rest =>
      tree.followWith purpose (onLink purpose) here (names ++ rest) := by
  induction names generalizing here with
  | nil =>
      obtain rfl := leads_nil.mp leads
      exact ⟨links, fun purpose rest _ _ => congrFun (congrFun (self purpose) here) rest⟩
  | cons name more ih =>
      have unrolled (purpose : Purpose) {rest : List String} (some_ : rest ≠ [])
          (quiet : rest ≠ [""]) :=
        @followWith_cons tree purpose (onLink purpose) here name (more ++ rest) (by simp [some_])
          (Or.inr (by
            intro same
            rcases List.append_eq_singleton_iff.mp same with ⟨-, same⟩ | ⟨-, same⟩
            · exact quiet same
            · exact some_ same))
      have continue_ {follow : Purpose → List String → Except SystemError Spot}
          (onward : tree.Passes location follow)
          (step : ∀ purpose rest, rest ≠ [] → rest ≠ [""] →
            tree.followWith purpose (onLink purpose) here (name :: (more ++ rest)) =
              follow purpose rest) :
          tree.Passes location fun purpose rest =>
            tree.followWith purpose (onLink purpose) here (name :: more ++ rest) := by
        obtain ⟨fewer, onward⟩ := onward
        exact ⟨fewer, fun purpose rest some_ quiet =>
          (step purpose rest some_ quiet).trans (onward purpose rest some_ quiet)⟩
      rw [leads_cons] at leads
      split_ifs at leads with trivial up
      · refine continue_ (ih here leads) fun purpose rest some_ quiet => ?_
        rw [unrolled purpose some_ quiet, if_pos trivial]
      · refine continue_ (ih _ leads) fun purpose rest some_ quiet => ?_
        rw [unrolled purpose some_ quiet, if_neg trivial, if_pos up]
      · rcases leads with ⟨seen, leads⟩ | ⟨target, seen, leads⟩
        · refine continue_ (ih _ leads) fun purpose rest some_ quiet => ?_
          rw [unrolled purpose some_ quiet, if_neg trivial, if_neg up, seen]
        · refine continue_ (through _ _ leads) fun purpose rest some_ quiet => ?_
          rw [unrolled purpose some_ quiet, if_neg trivial, if_neg up, seen]
          dsimp only
          rw [List.append_assoc]

theorem follow_append {links : Nat} {names : List String}
    (leads : tree.follow .look links here names = .ok (.taken location .directory)) :
    tree.Passes location fun purpose rest => tree.follow purpose links here (names ++ rest) := by
  induction links generalizing here names with
  | zero =>
      refine followWith_append (fun purpose => (follow_zero tree purpose).symm) ?_ names here leads
      intro start more led
      cases led
  | succ links ih =>
      exact followWith_append (fun purpose => (follow_succ tree purpose links).symm)
        (fun start more led => ih led) names here leads

/-- A name at the end that stands for no step can be left out. -/
theorem followWith_init {onLong onShort : Location → List String → Except SystemError Spot}
    {last : String} (idle : last = "" ∨ last = ".")
    (through : ∀ start names, onLong start (names ++ [last]) = .ok (.taken location .directory) →
      onShort start names = .ok (.taken location .directory))
    (names : List String) (here : Location)
    (leads : tree.Leads onLong here (names ++ [last]) location) :
    tree.Leads onShort here names location := by
  induction names generalizing here with
  | nil =>
      rw [List.nil_append, leads_cons, if_pos idle, leads_nil] at leads
      exact leads_nil.mpr leads
  | cons name more ih =>
      rw [List.cons_append, leads_cons] at leads
      rw [leads_cons]
      split_ifs at leads ⊢
      · exact ih _ leads
      · exact ih _ leads
      · rcases leads with ⟨seen, leads⟩ | ⟨target, seen, leads⟩
        · exact Or.inl ⟨seen, ih _ leads⟩
        · rw [← List.append_assoc] at leads
          exact Or.inr ⟨target, seen, through _ _ leads⟩

theorem follow_init {links : Nat} {names : List String} {last : String}
    (idle : last = "" ∨ last = ".")
    (leads : tree.follow .look links here (names ++ [last]) =
      .ok (.taken location .directory)) :
    tree.follow .look links here names = .ok (.taken location .directory) := by
  induction links generalizing here names with
  | zero =>
      refine followWith_init idle ?_ names here leads
      intro start more led
      cases led
  | succ links ih =>
      have through (start : Location) (more : List String)
          (led : tree.follow .look links start (more ++ [last]) =
            .ok (.taken location .directory)) :
          tree.follow .look links start more = .ok (.taken location .directory) := ih led
      exact followWith_init idle through names here leads

/-! ## Paths below a base -/

/-- Why a path is refused before it is followed. -/
def refusal? (path : Path) : Option SystemError :=
  if path.text.toList.contains '\x00' then some .nulInPath
  else if path.text.isEmpty then some .missing
  else if pathLimit ≤ path.text.utf8ByteSize then some .nameTooLong
  else none

theorem resolve_eq (tree : FileTree) (purpose : Purpose) (path : Path) :
    tree.resolve purpose path =
      match refusal? path with
      | some failure => .error failure
      | none =>
          tree.follow purpose linkLimit (startOf path.text tree.workingDirectory)
            (namesFor purpose path.text) := by
  unfold resolve refusal?
  split_ifs <;> rfl

theorem find_eq_ok_iff {path : Path} {node : Node} :
    tree.find path = .ok (location, node) ↔
      tree.resolve .look path = .ok (.taken location node) := by
  unfold find
  split <;> simp_all

theorem refusal?_of_find {path : Path} {node : Node}
    (found : tree.find path = .ok (location, node)) : refusal? path = none := by
  rw [find_eq_ok_iff, resolve_eq] at found
  cases refused : refusal? path with
  | none => rfl
  | some failure => rw [refused] at found; cases found

theorem text_ne_empty_of_find {path : Path} {node : Node}
    (found : tree.find path = .ok (location, node)) : path.text ≠ "" := by
  intro empty
  rw [find_eq_ok_iff] at found
  simp [resolve, empty] at found

theorem ne_empty_of_mem_entered {pieces : List (List Char)} {name : String}
    (member : name ∈ entered pieces) : name ≠ "" := by
  obtain ⟨piece, kept, rfl⟩ := List.mem_map.mp member
  have named : piece ≠ [] := by simpa using (List.mem_filter.mp kept).2
  simpa using named

theorem entered_ne_nil {pieces : List (List Char)} (down : LeadsDown pieces) :
    entered pieces ≠ [] := by
  obtain ⟨first, others, rfl, step⟩ := down.starts
  simp [entered, (Path.isStep_iff.mp step).1]

theorem namesFor_look (text : String) : namesFor .look text = stepNames text := by
  simp [namesFor]

theorem namesFor_below {base path : Path} {pieces : List (List Char)}
    (below : Below base pieces path) (purpose : Purpose) :
    namesFor purpose path.text = entered base.leading ++ entered pieces := by
  unfold namesFor
  rw [stepNames_below below]
  refine if_neg ?_
  rintro ⟨-, trailing⟩
  rw [List.getLast?_append_of_ne_nil _ (entered_ne_nil below.down)] at trailing
  exact ne_empty_of_mem_entered (List.mem_of_getLast? trailing) rfl

/-- The names that stay in front of what is joined to a base lead to where the base leads. -/
theorem leading_of_find {base : Path} (found : tree.find base = .ok (location, .directory)) :
    tree.follow .look linkLimit (startOf base.text tree.workingDirectory)
      (entered base.leading) = .ok (.taken location .directory) := by
  rw [find_eq_ok_iff, resolve_eq] at found
  cases refused : refusal? base with
  | some failure => rw [refused] at found; cases found
  | none =>
      rw [refused] at found
      dsimp only at found
      rw [namesFor_look] at found
      rcases stepNames_cases base with same | trailing
      · rwa [same] at found
      · rw [trailing] at found
        exact follow_init (Or.inl rfl) found

theorem startOf_eq {first second : Path} (same : first.isAbsolute = second.isAbsolute)
    (here : Location) : startOf first.text here = startOf second.text here := by
  unfold startOf
  rw [show (Path.mk first.text).isAbsolute = (Path.mk second.text).isAbsolute from same]

/-- A path below a directory is refused, or followed from the place of the directory. -/
theorem resolve_below {base path : Path} {pieces : List (List Char)}
    (found : tree.find base = .ok (location, .directory)) (below : Below base pieces path) :
    ∃ links, ∀ purpose, tree.resolve purpose path =
      match refusal? path with
      | some failure => .error failure
      | none => tree.follow purpose links location (entered pieces) := by
  have nonempty := text_ne_empty_of_find found
  obtain ⟨fewer, onward⟩ := follow_append (leading_of_find found)
  refine ⟨fewer, fun purpose => ?_⟩
  have start := startOf_eq (below.isAbsolute_eq nonempty) tree.workingDirectory
  have nonblank : entered pieces ≠ [""] := by
    intro same
    have member : "" ∈ entered pieces := by simp [same]
    exact ne_empty_of_mem_entered member rfl
  have passed := onward purpose (entered pieces) (entered_ne_nil below.down) nonblank
  dsimp only at passed
  rw [resolve_eq, namesFor_below below, start, passed]

theorem follow_dropTrivial {links : Nat} {front pieces : List (List Char)}
    (led : tree.follow .look links here (entered (front ++ pieces)) =
      .ok (.taken location .directory)) :
    tree.follow .look links here (entered (front ++ Path.dropTrivial pieces)) =
      .ok (.taken location .directory) := by
  obtain ⟨-, trivial, whole, every⟩ := Path.dropTrivial_cases pieces
  rw [whole, ← List.append_assoc] at led
  generalize front ++ Path.dropTrivial pieces = kept at led ⊢
  clear whole
  induction trivial using List.reverseRecOn with
  | nil => rwa [List.append_nil] at led
  | append_singleton before last ih =>
      refine ih (fun piece member => every piece (List.mem_append_left _ member)) ?_
      have idle := every last (by simp)
      rw [← List.append_assoc] at led
      unfold entered at led ⊢
      rw [List.filter_append, List.map_append] at led
      by_cases empty : last = []
      · simpa [empty] using led
      · have dotted : last = ['.'] := by
          by_contra other
          rw [Path.isStep_iff.mpr ⟨empty, other⟩] at idle
          cases idle
        rw [dotted] at led
        exact follow_init (Or.inr rfl) led

theorem refusal?_ne_missing {path : Path} (written : path.text ≠ "") :
    refusal? path ≠ some .missing := by
  unfold refusal?
  have nonempty : ¬ path.text.isEmpty = true := by simpa using written
  rw [if_neg nonempty]
  split_ifs <;> simp

theorem trims_text_ne_empty {base path : Path} (written : base.text ≠ "")
    (trims : Trims base path) : path.text ≠ "" := by
  intro empty
  obtain ⟨first, others, front, parts⟩ := trims.split
  obtain ⟨same, _, rest, head, whole, more⟩ := Path.leading_head written
  rw [head] at front
  have relative : path.isAbsolute = false := by
    unfold Path.isAbsolute
    rw [empty]
    rfl
  have absolute : first = [] → base.isAbsolute = true := by
    rintro rfl
    obtain ⟨rfl, -⟩ := List.cons.inj front
    exact (Path.isAbsolute_iff base).mpr ⟨rest, more rfl, whole⟩
  rw [trims.absolute] at relative
  rw [empty] at parts
  rcases parts with parts | ⟨bare, -, parts⟩
  · have bare : first = [] := (List.cons.inj parts).1.symm
    rw [absolute bare] at relative
    cases relative
  · rw [absolute bare] at relative
    cases relative

/-- The names of a path that is trimmed lead to the directory that all of its pieces lead to. -/
theorem follow_trimmed {links : Nat} {path : Path} {first : List Char} {others : List (List Char)}
    (written : path.text ≠ "")
    (parts : segments path.text.toList = first :: Path.dropTrivial others ∨
      first = [] ∧ Path.dropTrivial others = [] ∧ segments path.text.toList = [[], []])
    (led : tree.follow .look links here (entered (first :: others)) =
      .ok (.taken location .directory)) :
    tree.follow .look links here (stepNames path.text) = .ok (.taken location .directory) := by
  rw [← List.singleton_append] at led
  have trimmed := follow_dropTrivial led
  rcases parts with parts | ⟨bare, none, parts⟩
  · have ends : (first :: Path.dropTrivial others).getLast? ≠ some [] := by
      rcases (Path.dropTrivial_cases others).1 with none | ⟨before, last, split, step⟩
      · rw [none] at parts ⊢
        rintro ⟨rfl⟩
        have whole := Path.joinSegments_segments path.text.toList
        rw [parts] at whole
        exact written (String.toList_eq_nil_iff.mp whole.symm)
      · rw [split, ← List.cons_append, List.getLast?_concat]
        simpa using (Path.isStep_iff.mp step).1
    rw [stepNames_eq, parts, stepsOf_eq_entered ends]
    exact trimmed
  · rw [bare, none] at trimmed
    rw [stepNames_eq, parts]
    cases links <;> exact trimmed

/-- A base without its trivial pieces leads to the same directory, unless it is refused. -/
theorem find_trims {base path : Path} (found : tree.find base = .ok (location, .directory))
    (trims : Trims base path) :
    tree.find path = .ok (location, .directory) ∨
      ∃ failure, tree.find path = .error failure ∧ failure ≠ .missing := by
  have written := trims_text_ne_empty (text_ne_empty_of_find found) trims
  cases refused : refusal? path with
  | some failure =>
      refine Or.inr ⟨failure, ?_, ?_⟩
      · unfold find
        rw [resolve_eq, refused]
      · rintro rfl
        exact refusal?_ne_missing written refused
  | none =>
      refine Or.inl (find_eq_ok_iff.mpr ?_)
      have led := leading_of_find found
      obtain ⟨first, others, front, parts⟩ := trims.split
      rw [front] at led
      rw [resolve_eq, refused, namesFor_look, startOf_eq trims.absolute]
      exact follow_trimmed written parts led

end Stagehand.FileTree
