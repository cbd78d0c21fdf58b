import Stagehand.Proofs.FileTree.Change

/-! # Ways with nothing in them but directories

Where nothing but directories can stand in the way, a path below a base ends in one of four manners,
and a directory with its parents is made as soon as the names are short enough.  A name that is too
long is only found out once the directory that it stands in is there.
-/

set_option autoImplicit false

namespace Stagehand.FileTree

open Stagehand.Path (segments names isStep LeadsDown Below Trims)

variable {tree : FileTree} {purpose : Purpose} {here location : Location}
  {onLink : Location → List String → Except SystemError Spot} {pieces : List (List Char)}

/-- Whatever stands on the way along the names is a directory. -/
def ClearAlong (tree : FileTree) (here : Location) (names : List String) : Prop :=
  ∀ place node, Way here names place → tree.at? place = some node → node = .directory

/-- The ends of a way along some names with nothing but directories in it. -/
inductive ClearEnd (tree : FileTree) (here : Location) (names : List String) :
    Except SystemError Spot → Prop where
  | directory (opened : tree.Open here names) :
      ClearEnd tree here names (.ok (.taken (here ++ names) .directory))
  | free (front : List String) (last : String) (split : names = front ++ [last])
      (opened : tree.Open here front) (seen : tree.look (here ++ front) last = .ok none) :
      ClearEnd tree here names (.ok (.free (here ++ names)))
  | missing (front : List String) (name : String) (more : List String)
      (split : names = front ++ name :: more) (inside : more ≠ []) (opened : tree.Open here front)
      (seen : tree.look (here ++ front) name = .ok none) :
      ClearEnd tree here names (.error .missing)
  | tooLong (front : List String) (name : String) (more : List String)
      (split : names = front ++ name :: more) (opened : tree.Open here front)
      (long : nameLimit < name.utf8ByteSize) : ClearEnd tree here names (.error .nameTooLong)

theorem ClearEnd.cons {name : String} {more : List String} {result : Except SystemError Spot}
    (seen : tree.look here name = .ok (some .directory))
    (ended : ClearEnd tree (here ++ [name]) more result) :
    ClearEnd tree here (name :: more) result := by
  have joined (rest : List String) : here ++ [name] ++ rest = here ++ name :: rest := by simp
  cases ended with
  | directory opened =>
      rw [joined]
      exact .directory ⟨seen, opened⟩
  | free front last split opened beyond =>
      rw [joined] at beyond ⊢
      exact .free (name :: front) last (by rw [split]; rfl) ⟨seen, opened⟩ beyond
  | missing front next rest split inside opened beyond =>
      rw [joined] at beyond
      exact .missing (name :: front) next rest (by rw [split]; rfl) inside ⟨seen, opened⟩ beyond
  | tooLong front next rest split opened long =>
      exact .tooLong (name :: front) next rest (by rw [split]; rfl) ⟨seen, opened⟩ long

theorem ClearAlong.tail {name : String} {more : List String}
    (clear : tree.ClearAlong here (name :: more)) : tree.ClearAlong (here ++ [name]) more := by
  rintro place node ⟨front, nonempty, starts, rfl⟩ stands
  refine clear _ node ⟨name :: front, by simp, ?_, by simp⟩ stands
  exact List.cons_prefix_cons.mpr ⟨rfl, starts⟩

theorem ClearAlong.front {front back : List String} (clear : tree.ClearAlong here (front ++ back)) :
    tree.ClearAlong here front := by
  rintro place node ⟨part, nonempty, starts, same⟩ stands
  exact clear place node ⟨part, nonempty, starts.trans (List.prefix_append _ _), same⟩ stands

/-- Pieces that end in a step. -/
def EndsInStep (pieces : List (List Char)) : Prop :=
  ∃ last, pieces.getLast? = some last ∧ isStep last = true

theorem EndsInStep.tail {piece : List Char} {more : List (List Char)}
    (ends : EndsInStep (piece :: more)) : more = [] ∧ isStep piece = true ∨ EndsInStep more := by
  obtain ⟨last, found, step⟩ := ends
  cases more with
  | nil =>
      cases Option.some.inj found
      exact Or.inl ⟨rfl, step⟩
  | cons next others =>
      rw [List.getLast?_cons_cons] at found
      exact Or.inr ⟨last, found, step⟩

theorem EndsInStep.names_ne_nil (ends : EndsInStep pieces) : names pieces ≠ [] := by
  obtain ⟨last, found, step⟩ := ends
  have named : String.ofList last ∈ names pieces :=
    List.mem_map_of_mem (List.mem_filter.mpr ⟨List.mem_of_getLast? found, step⟩)
  exact List.ne_nil_of_mem named

/-- A name that leads nowhere yet ends the way, as its last name or before that. -/
theorem followWith_entered_of_none {piece : List Char} {more : List (List Char)}
    (step : isStep piece = true) (plain : piece ≠ ['.', '.'])
    (seen : tree.look here (String.ofList piece) = .ok none) :
    tree.followWith purpose onLink here (entered (piece :: more)) =
      if entered more = [] then .ok (.free (here ++ [String.ofList piece]))
      else .error .missing := by
  obtain ⟨loud, up⟩ := name_of_isStep step plain
  rw [entered_cons, if_neg (Path.isStep_iff.mp step).1]
  by_cases last : entered more = []
  · rw [if_pos last, last, followWith_singleton, lastStep, if_neg loud, if_neg up, seen]
  · rw [if_neg last, followWith_cons _ last (Or.inr (entered_ne_blank more)), if_neg loud,
      if_neg up, seen]

theorem followWith_entered_of_error {piece : List Char} {more : List (List Char)}
    {failure : SystemError} (step : isStep piece = true) (plain : piece ≠ ['.', '.'])
    (seen : tree.look here (String.ofList piece) = .error failure) :
    tree.followWith purpose onLink here (entered (piece :: more)) = .error failure := by
  obtain ⟨loud, up⟩ := name_of_isStep step plain
  rw [entered_cons, if_neg (Path.isStep_iff.mp step).1]
  by_cases last : entered more = []
  · rw [last, followWith_singleton, lastStep, if_neg loud, if_neg up, seen]
  · rw [followWith_cons _ last (Or.inr (entered_ne_blank more)), if_neg loud, if_neg up, seen]

theorem clearEnd_of_followWith (plain : ∀ piece ∈ pieces, piece ≠ ['.', '.'])
    (ends : EndsInStep pieces) (clear : tree.ClearAlong here (names pieces)) :
    ClearEnd tree here (names pieces)
      (tree.followWith purpose onLink here (entered pieces)) := by
  -- The induction is on the pieces and not on the names, as pieces without a name are entered too.
  induction pieces generalizing here with
  | nil => exact absurd rfl ends.names_ne_nil
  | cons piece more ih =>
      have plainMore := fun other member => plain other (List.mem_cons_of_mem _ member)
      rw [names_cons] at clear ⊢
      by_cases step : isStep piece = true
      · rw [if_pos step] at clear ⊢
        have down := plain piece List.mem_cons_self
        by_cases long : nameLimit < (String.ofList piece).utf8ByteSize
        · rw [followWith_entered_of_error step down (if_pos long)]
          exact .tooLong [] _ _ rfl trivial long
        have look : tree.look here (String.ofList piece) =
            .ok (tree.at? (here ++ [String.ofList piece])) := if_neg long
        cases stands : tree.at? (here ++ [String.ofList piece]) with
        | some node =>
            have first : Way here (String.ofList piece :: names more)
                (here ++ [String.ofList piece]) := ⟨[_], by simp, by simp, rfl⟩
            obtain rfl := clear _ node first stands
            rw [stands] at look
            rw [followWith_entered_of_directory step down look]
            refine .cons look ?_
            rcases ends.tail with ⟨rfl, -⟩ | later
            · have done := @ClearEnd.directory tree (here ++ [String.ofList piece]) [] trivial
              rwa [List.append_nil] at done
            · exact ih plainMore later clear.tail
        | none =>
            rw [stands] at look
            have seen : tree.look (here ++ []) (String.ofList piece) = .ok none := by
              rwa [List.append_nil]
            rw [followWith_entered_of_none step down look]
            rcases ends.tail with ⟨rfl, -⟩ | later
            · exact .free [] _ rfl trivial seen
            · rw [if_neg fun none => later.names_ne_nil (names_eq_nil_of_entered none)]
              exact .missing [] _ _ rfl later.names_ne_nil trivial seen
      · rw [if_neg step] at clear ⊢
        rw [followWith_entered_of_trivial (not_isStep_iff.mp step)]
        rcases ends.tail with ⟨-, last⟩ | later
        · exact absurd last step
        · exact ih plainMore later clear

theorem Open.look_of_split {front more : List String} {name : String}
    (opened : tree.Open here (front ++ name :: more)) :
    tree.look (here ++ front) name = .ok (some .directory) :=
  (open_append.mp opened).2.1

/-- No name is longer than the limit. -/
def Short (names : List String) : Prop :=
  ∀ name ∈ names, name.utf8ByteSize ≤ nameLimit

theorem short_of_look {name : String} {node : Option Node}
    (seen : tree.look here name = .ok node) : name.utf8ByteSize ≤ nameLimit := by
  unfold look at seen
  split_ifs at seen with long
  exact Nat.not_lt.mp long

theorem Open.short {names : List String} (opened : tree.Open here names) : Short names := by
  induction names generalizing here with
  | nil => exact List.forall_mem_nil _
  | cons name more ih => exact List.forall_mem_cons.mpr ⟨short_of_look opened.1, ih opened.2⟩

theorem not_long_of_short {names front more : List String} {name : String} (short : Short names)
    (split : names = front ++ name :: more) : ¬ nameLimit < name.utf8ByteSize :=
  Nat.not_lt.mpr (short name (by simp [split]))

/-! ## Making directories -/

section Based

variable {base path : Path}
  (found : tree.find base = .ok (location, .directory)) (below : Below base pieces path)
  (ends : EndsInStep pieces) (accepted : refusal? path = none)
  (clear : tree.ClearAlong location (names pieces))

include found below accepted

theorem isDirectory_of_open (opened : tree.Open location (names pieces)) :
    tree.isDirectory path = true :=
  isDirectory_iff.mpr ⟨_, find_eq_ok_iff.mpr (resolve_of_open found below accepted opened)⟩

include ends clear

theorem clearEnd_of_resolve : ClearEnd tree location (names pieces) (tree.resolve purpose path) := by
  obtain ⟨links, onward⟩ := resolve_below found below
  rw [onward purpose, accepted]
  cases links with
  | zero => exact clearEnd_of_followWith below.down.plain ends clear
  | succ links => exact clearEnd_of_followWith below.down.plain ends clear

/-- A directory that is there or can be made in its parent, as far as its names are short. -/
theorem makeOrFind_clear (short : Short (names pieces))
    (present : tree.makeDirectory path ≠ .error .missing) :
    (tree.makeOrFind path).2 = .ok () ∧
      Edits (Way location (names pieces)) nowhere tree (tree.makeOrFind path).1 ∧
      (tree.makeOrFind path).1.Open location (names pieces) := by
  have ended := @clearEnd_of_resolve tree .entry _ _ _ _ found below ends accepted clear
  have there := isDirectory_of_open found below accepted
  unfold makeOrFind
  unfold makeDirectory at present ⊢
  generalize tree.resolve .entry path = result at ended present ⊢
  cases ended with
  | directory opened =>
      dsimp only
      rw [if_pos (there opened)]
      exact ⟨rfl, .refl tree, opened⟩
  | free front last split opened seen =>
      have place : location ++ names pieces = location ++ front ++ [last] := by
        rw [split, List.append_assoc]
      have free : tree.at? (location ++ names pieces) = none := by
        rw [place]
        exact look_eq_ok seen
      have edits : Edits (Way location (names pieces)) nowhere tree
          (tree.put (location ++ names pieces) .directory) :=
        .put_directory ⟨names pieces, ends.names_ne_nil, List.prefix_rfl, rfl⟩ free
      have stands : (tree.put (location ++ names pieces) .directory).at?
          (location ++ front ++ [last]) = some .directory := by
        rw [← place]
        exact at?_put_self tree .directory (by simp [ends.names_ne_nil])
      refine ⟨rfl, edits, ?_⟩
      dsimp only
      rw [split] at edits stands ⊢
      exact open_concat.mpr
        ⟨opened.mono fun _ => edits.directory_kept, look_of_at? seen stands⟩
  | missing => exact absurd rfl present
  | tooLong front name more split opened long =>
      exact absurd long (not_long_of_short short split)

/-- A name that is too long is found out once nothing in front of it is missing. -/
theorem makeOrFind_tooLong (long : ¬ Short (names pieces))
    (present : tree.makeDirectory path ≠ .error .missing) :
    (tree.makeOrFind path).2 = .error .nameTooLong := by
  have entry := @clearEnd_of_resolve tree .entry _ _ _ _ found below ends accepted clear
  have closed : tree.isDirectory path = false := Bool.eq_false_iff.mpr fun stands => by
    obtain ⟨place, there⟩ := isDirectory_iff.mp stands
    have looked := @clearEnd_of_resolve tree .look _ _ _ _ found below ends accepted clear
    rw [find_eq_ok_iff.mp there] at looked
    cases looked with
    | directory opened => exact long opened.short
  unfold makeOrFind
  unfold makeDirectory at present ⊢
  generalize tree.resolve .entry path = result at entry present ⊢
  cases entry with
  | directory opened => exact absurd opened.short long
  | free front last split opened seen =>
      refine absurd ?_ long
      rw [split]
      exact List.forall_mem_append.mpr ⟨opened.short, by simpa using short_of_look seen⟩
  | missing => exact absurd rfl present
  | tooLong => simp [closed]

end Based

/-! ## Directories with their parents -/

/-- A path that starts like one that is not refused is not refused either. -/
theorem refusal?_of_start {path front : Path} (accepted : refusal? path = none)
    (written : front.text ≠ "") (starts : front.text.toList <+: path.text.toList) :
    refusal? front = none := by
  obtain ⟨rest, whole⟩ := starts
  have text : path.text = front.text ++ String.ofList rest := by
    rw [← String.toList_inj, String.toList_append, String.toList_ofList, whole]
  unfold refusal? at accepted ⊢
  split_ifs at accepted with nul empty long
  have clean : ¬ front.text.toList.contains '\x00' = true := by
    intro inside
    apply nul
    rw [← whole]
    simp_all
  have short : ¬ pathLimit ≤ front.text.utf8ByteSize := by
    rw [text, String.utf8ByteSize_append] at long
    omega
  rw [if_neg clean, if_neg (by simpa using written), if_neg short]

theorem Edits.clearAlong {directories : Location → Prop} {after : FileTree} {names : List String}
    (edits : Edits directories nowhere tree after) (clear : tree.ClearAlong here names) :
    after.ClearAlong here names := by
  intro place node way stands
  have edit := edits.place place
  rw [stands] at edit
  generalize stood : tree.at? place = before at edit
  cases edit with
  | kept => exact clear place node way stood
  | made => rfl
  | created allowed => exact absurd allowed id
  | replaced allowed => exact absurd allowed id

section Deep

variable {base path : Path}

theorem makeDirectory_ne_missing_of_open (found : tree.find base = .ok (location, .directory))
    (below : Below base pieces path) (ends : EndsInStep pieces) (accepted : refusal? path = none)
    (clear : tree.ClearAlong location (names pieces))
    (opened : tree.Open location (names pieces).dropLast) :
    tree.makeDirectory path ≠ .error .missing := by
  have ended := @clearEnd_of_resolve tree .entry _ _ _ _ found below ends accepted clear
  intro absent
  unfold makeDirectory at absent
  generalize tree.resolve .entry path = result at ended absent
  cases ended with
  | directory => cases absent
  | free => cases absent
  | tooLong => cases absent
  | missing front name more split inside _ seen =>
      rw [split, List.dropLast_append_of_ne_nil (List.cons_ne_nil _ _),
        List.dropLast_cons_of_ne_nil inside] at opened
      rw [opened.look_of_split] at seen
      cases seen

theorem one_lt_length_of_missing (found : tree.find base = .ok (location, .directory))
    (below : Below base pieces path) (ends : EndsInStep pieces) (accepted : refusal? path = none)
    (clear : tree.ClearAlong location (names pieces))
    (missing : tree.makeDirectory path = .error .missing) : 1 < (names pieces).length := by
  by_contra few
  have alone : (names pieces).dropLast = [] := by
    apply List.eq_nil_of_length_eq_zero
    rw [List.length_dropLast]
    omega
  refine makeDirectory_ne_missing_of_open found below ends accepted clear ?_ missing
  rw [alone]
  trivial

/-- Once its parents are made, a directory is made or found in the nearest of them. -/
theorem makeAll_eq_makeOrFind (bound : Nat) (found : tree.find base = .ok (location, .directory))
    (below : Below base pieces path) (ends : EndsInStep pieces) (accepted : refusal? path = none)
    (clear : tree.ClearAlong location (names pieces)) (short : Short (names pieces).dropLast)
    (enough : (names pieces).length ≤ bound + 1) :
    ∃ before, tree.makeAll (path :: path.parentsUpTo bound) = before.makeOrFind path ∧
      Edits (Way location (names pieces)) nowhere tree before ∧
      before.makeDirectory path ≠ .error .missing := by
  have written := below.text_ne_empty
  -- A missing parent has a name less, so it is reached before the bound is used up.
  induction bound generalizing path pieces with
  | zero =>
      have missing : tree.makeDirectory path ≠ .error .missing := fun missing => by
        have more := one_lt_length_of_missing found below ends accepted clear missing
        omega
      exact ⟨tree, makeAll_of_not_missing written _ missing, .refl tree, missing⟩
  | succ bound ih =>
      by_cases missing : tree.makeDirectory path = .error .missing
      · obtain ⟨parent, up, ⟨fewer, name, higher, fewerEnds, longer⟩ | ⟨⟨name, single⟩, -⟩⟩ :=
          below.parent (text_ne_empty_of_find found)
        · have starts : names fewer <+: names pieces := ⟨[name], longer.symm⟩
          rw [longer, List.dropLast_concat] at short
          rw [longer, List.length_append] at enough
          have acceptedParent :=
            refusal?_of_start accepted higher.text_ne_empty (Path.parent?_start up)
          have clearParent : tree.ClearAlong location (names fewer) := by
            rw [longer] at clear
            exact clear.front
          obtain ⟨before, made, edits, present⟩ := ih higher fewerEnds acceptedParent clearParent
            (fun name member => short name (List.dropLast_subset _ member))
            (by simpa using enough) higher.text_ne_empty
          obtain ⟨done, more, opened⟩ := makeOrFind_clear (edits.find found) higher fewerEnds
            acceptedParent (edits.clearAlong clearParent) short present
          have whole := (edits.trans more).mono (way_mono starts) fun _ => id
          refine ⟨(before.makeOrFind parent).1, ?_, whole, ?_⟩
          · rw [makeAll_of_missing written _ missing, Path.parentsUpTo, up]
            dsimp only
            rw [made]
            generalize before.makeOrFind parent = changed at done ⊢
            obtain ⟨after, outcome⟩ := changed
            cases done
            rfl
          · refine makeDirectory_ne_missing_of_open (whole.find found) below ends accepted
              (whole.clearAlong clear) ?_
            rwa [longer, List.dropLast_concat]
        · have more := one_lt_length_of_missing found below ends accepted clear missing
          rw [single] at more
          exact absurd more (by simp)
      · exact ⟨tree, makeAll_of_not_missing written _ missing, .refl tree, missing⟩

theorem length_names_le_of_below (below : Below base pieces path) :
    (names pieces).length ≤ path.text.length + 1 := by
  have counted := Path.length_segments_le path.text.toList
  rw [below.split, List.length_append, String.length_toList] at counted
  have fewer := Path.length_names_le pieces
  omega

section

variable (found : tree.find base = .ok (location, .directory)) (below : Below base pieces path)
  (ends : EndsInStep pieces) (accepted : refusal? path = none)
  (clear : tree.ClearAlong location (names pieces))

include found below ends accepted clear

/-- What a look along a clear way finds. -/
theorem find_clear :
    tree.find path = .ok (location ++ names pieces, .directory) ∧ Short (names pieces) ∨
      tree.find path = .error .missing ∨
      tree.find path = .error .nameTooLong ∧ ¬ Short (names pieces) := by
  have ended := @clearEnd_of_resolve tree .look _ _ _ _ found below ends accepted clear
  unfold find
  generalize tree.resolve .look path = result at ended
  cases ended with
  | directory opened => exact Or.inl ⟨rfl, opened.short⟩
  | free => exact Or.inr (Or.inl rfl)
  | missing => exact Or.inr (Or.inl rfl)
  | tooLong front name more split _ long =>
      exact Or.inr (Or.inr ⟨rfl, fun short => not_long_of_short short split long⟩)

theorem makeDirectories_clear (short : Short (names pieces)) :
    (tree.makeDirectories path).2 = .ok () ∧
      Edits (Way location (names pieces)) nowhere tree (tree.makeDirectories path).1 := by
  obtain ⟨before, made, edits, present⟩ := makeAll_eq_makeOrFind path.text.length found below ends
    accepted clear (fun name member => short name (List.dropLast_subset _ member))
    (length_names_le_of_below below)
  obtain ⟨done, more, -⟩ := makeOrFind_clear (edits.find found) below ends accepted
    (edits.clearAlong clear) short present
  unfold makeDirectories Path.ancestors
  rw [made]
  exact ⟨done, edits.trans more⟩

theorem makeDirectories_tooLong (short : Short (names pieces).dropLast)
    (long : ¬ Short (names pieces)) : (tree.makeDirectories path).2 = .error .nameTooLong := by
  obtain ⟨before, made, edits, present⟩ := makeAll_eq_makeOrFind path.text.length found below ends
    accepted clear short (length_names_le_of_below below)
  unfold makeDirectories Path.ancestors
  rw [made]
  exact makeOrFind_tooLong (edits.find found) below ends accepted (edits.clearAlong clear) long
    present

end

end Deep

end Stagehand.FileTree
