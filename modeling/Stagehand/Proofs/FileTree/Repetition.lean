import Stagehand.Proofs.FileTree.Persistence
import Stagehand.Workspace.Ensure

/-! # Making again what was made

A directory that was made is found at its path, and a file that was created is created again at the
same place, symbolic links or not and whatever was added in between.  So the same work done once more
finds its directories and opens its files.
-/

set_option autoImplicit false

namespace Stagehand

namespace FileTree

variable {tree before after later : FileTree} {here location : Location} {steps tail : List String}
  {path : Path} {directories files : Location → Prop} {spot : Spot}
  {onBefore onAfter : Location → List String → Except SystemError Spot}

/-! ## Directories -/

section

variable (edits : Edits directories files before after)
  (made : after.at? location = some .directory) (idle : tail = [] ∨ tail = [""])

include edits made idle

/-- A way to a free place leads to the directory that is made there, also with a slash at its end. -/
theorem Goes.leads
    (through : ∀ start more, onBefore start more = .ok (.free location) →
      onAfter start (more ++ tail) = .ok (.taken location .directory))
    (goes : before.Goes onBefore here steps (.free location)) :
    after.Leads onAfter here (steps ++ tail) location := by
  generalize ending : Spot.free location = spot at goes
  induction goes with
  | @free here name loud down seen =>
      cases ending
      have stands := look_of_at? seen made
      rw [List.singleton_append, leads_cons, if_neg loud, if_neg down]
      refine Or.inl ⟨stands, ?_⟩
      rcases idle with rfl | rfl
      · exact leads_nil.mpr rfl
      · rw [leads_cons, if_pos (Or.inl rfl)]
        exact leads_nil.mpr rfl
  | file => cases ending
  | idle trivial rest ih =>
      rw [List.cons_append, leads_cons, if_pos trivial]
      exact ih ending
  | up rest ih =>
      rw [List.cons_append, leads_cons, if_neg (by simp), if_pos rfl]
      exact ih ending
  | down loud down seen rest ih =>
      have stays := look_of_at? seen (edits.directory_kept (look_eq_ok seen))
      rw [List.cons_append, leads_cons, if_neg loud, if_neg down]
      exact Or.inl ⟨stays, ih ending⟩
  | @link here name target more spot loud down seen rest =>
      have stays := look_of_at? seen (edits.link_kept (look_eq_ok seen))
      rw [List.cons_append, leads_cons, if_neg loud, if_neg down]
      refine Or.inr ⟨target, stays, ?_⟩
      rw [← List.append_assoc]
      exact through _ _ (rest.trans (congrArg Except.ok ending.symm))

theorem follow_leads {purpose : Purpose} {links : Nat}
    (followed : before.follow purpose links here steps = .ok (.free location)) :
    after.follow .look links here (steps ++ tail) = .ok (.taken location .directory) := by
  induction links generalizing here steps with
  | zero =>
      refine Goes.leads edits made idle ?_ (goes_of_followWith .free followed)
      intro start more led
      cases led
  | succ links ih =>
      refine Goes.leads edits made idle ?_ (goes_of_followWith .free followed)
      intro start more led
      exact ih led

end

/-- The names of a new entry are all names of its path but for a slash at the end. -/
theorem stepNames_eq_namesFor_entry (text : String) :
    ∃ tail, (tail = [] ∨ tail = [""]) ∧ stepNames text = namesFor .entry text ++ tail := by
  unfold namesFor
  dsimp only
  split_ifs with trailing
  · obtain ⟨front, split⟩ := List.getLast?_eq_some_iff.mp trailing.2
    exact ⟨[""], Or.inr rfl, by rw [split, List.dropLast_concat]⟩
  · exact ⟨[], Or.inl rfl, (List.append_nil _).symm⟩

/-- The path of a directory leads to it once it is made. -/
theorem find_of_makeDirectory (made : tree.makeDirectory path = .ok after) :
    ∃ place, after.find path = .ok (place, .directory) := by
  have edits := edits_makeDirectory made
  obtain ⟨place, resolved, rfl⟩ := makeDirectory_eq_ok_iff.mp made
  have nonroot : place ≠ [] := by
    rintro rfl
    have free : tree.at? [] = none := holds_of_resolve .free resolved
    rw [at?_nil] at free
    cases free
  refine ⟨place, find_eq_ok_iff.mpr ?_⟩
  rw [resolve_eq] at resolved ⊢
  cases refused : refusal? path with
  | some failure => rw [refused] at resolved; cases resolved
  | none =>
      rw [refused] at resolved
      obtain ⟨tail, idle, whole⟩ := stepNames_eq_namesFor_entry path.text
      dsimp only at resolved ⊢
      rw [namesFor_look, whole]
      exact follow_leads edits (at?_put_self tree .directory nonroot) idle resolved

theorem find_of_makeOrFind (done : (tree.makeOrFind path).2 = .ok ()) :
    ∃ place, (tree.makeOrFind path).1.find path = .ok (place, .directory) := by
  unfold makeOrFind at done ⊢
  cases made : tree.makeDirectory path with
  | ok next => exact find_of_makeDirectory made
  | error failure =>
      rw [made] at done
      dsimp only at done
      split_ifs at done with stands
      exact isDirectory_iff.mp stands

theorem find_of_makeAll {parents : List Path} (written : path.text ≠ "")
    (done : (tree.makeAll (path :: parents)).2 = .ok ()) :
    ∃ place, (tree.makeAll (path :: parents)).1.find path = .ok (place, .directory) := by
  by_cases missing : tree.makeDirectory path = .error .missing
  · rw [makeAll_of_missing written _ missing] at done ⊢
    generalize tree.makeAll parents = above at done ⊢
    obtain ⟨above, deeper | _⟩ := above
    · cases done
    · exact find_of_makeOrFind done
  · rw [makeAll_of_not_missing written _ missing] at done ⊢
    exact find_of_makeOrFind done

/-! ## Files -/

/-- A way to a file or a free place does not end in a slash. -/
theorem Goes.unslashed {location : Location} (writable : spot.Writable location)
    {onLink : Location → List String → Except SystemError Spot}
    (through : ∀ start more, onLink start more = .ok spot → more.getLast? ≠ some "")
    (goes : tree.Goes onLink here steps spot) : steps.getLast? ≠ some "" := by
  induction goes with
  | free loud | file loud =>
      rintro ⟨⟩
      exact loud (Or.inl rfl)
  | idle _ rest ih | up rest ih | down _ _ _ rest ih =>
      rw [List.getLast?_cons_of_ne_nil rest.ne_nil]
      exact ih writable through
  | @link here name target more spot loud down seen rest =>
      intro trailing
      by_cases last : more = []
      · subst last
        cases trailing
        exact loud (Or.inl rfl)
      · refine through _ _ rest ?_
        rw [List.getLast?_append_of_ne_nil _ last]
        rwa [List.getLast?_cons_of_ne_nil last] at trailing

theorem follow_unslashed {purpose : Purpose} {links : Nat} (writable : spot.Writable location)
    (followed : tree.follow purpose links here steps = .ok spot) : steps.getLast? ≠ some "" := by
  induction links generalizing here steps with
  | zero =>
      refine (goes_of_followWith writable followed).unslashed writable ?_
      intro start more led
      cases led
  | succ links ih =>
      refine (goes_of_followWith writable followed).unslashed writable ?_
      intro start more led
      exact ih led

theorem followWith_write {location : Location} (writable : spot.Writable location)
    {onLook onWrite : Location → List String → Except SystemError Spot}
    (through : ∀ start more, onLook start more = .ok spot →
      onWrite start more = .ok spot ∧ more.getLast? ≠ some "")
    (goes : tree.Goes onLook here steps spot) :
    tree.followWith .write onWrite here steps = .ok spot := by
  have unslashed {here : Location} {more : List String} (rest : tree.Goes onLook here more spot) :
      more ≠ [""] := by
    rintro rfl
    exact rest.unslashed writable (fun start more led => (through start more led).2) rfl
  induction goes with
  | free loud down seen =>
      rw [followWith_singleton, lastStep, if_neg loud, if_neg down, seen]
  | file loud down seen =>
      rw [followWith_singleton, lastStep, if_neg loud, if_neg down, seen]
  | idle trivial rest ih =>
      rw [followWith_cons _ rest.ne_nil (Or.inr (unslashed rest)), if_pos trivial]
      exact ih writable through unslashed
  | up rest ih =>
      rw [followWith_cons _ rest.ne_nil (Or.inr (unslashed rest)), if_neg (by simp), if_pos rfl]
      exact ih writable through unslashed
  | down loud down seen rest ih =>
      rw [followWith_cons _ rest.ne_nil (Or.inr (unslashed rest)), if_neg loud, if_neg down, seen]
      exact ih writable through unslashed
  | @link here name target more spot loud down seen rest =>
      obtain ⟨led, ends⟩ := through _ _ rest
      by_cases last : more = []
      · subst last
        rw [List.append_nil] at led
        rw [followWith_singleton, lastStep, if_neg loud, if_neg down, seen]
        simpa using led
      · have quiet : more ≠ [""] := by
          rintro rfl
          rw [List.getLast?_append_of_ne_nil _ last] at ends
          exact ends rfl
        rw [followWith_cons _ last (Or.inr quiet), if_neg loud, if_neg down, seen]
        exact led

theorem follow_write {links : Nat} (writable : spot.Writable location)
    (followed : tree.follow .look links here steps = .ok spot) :
    tree.follow .write links here steps = .ok spot := by
  induction links generalizing here steps with
  | zero =>
      refine followWith_write writable ?_ (goes_of_followWith writable followed)
      intro start more led
      cases led
  | succ links ih =>
      refine followWith_write writable ?_ (goes_of_followWith writable followed)
      intro start more led
      exact ⟨ih led, follow_unslashed writable led⟩

/-- What is seen through a path, if it is a file, is opened through it. -/
theorem resolve_write_of_find {content : Bytes}
    (found : tree.find path = .ok (location, .file content)) :
    tree.resolve .write path = .ok (.taken location (.file content)) := by
  have resolved := find_eq_ok_iff.mp found
  rw [resolve_eq] at resolved ⊢
  cases refused : refusal? path with
  | some failure => rw [refused] at resolved; cases resolved
  | none =>
      rw [refused] at resolved
      have same : namesFor .write path.text = stepNames path.text := by simp [namesFor]
      dsimp only at resolved ⊢
      rw [namesFor_look] at resolved
      rw [same]
      exact follow_write (.file content) resolved

theorem createFile_again {created : FileTree}
    (creation : tree.createFile path = .ok (location, created))
    (edits : Edits directories files created later) :
    (∃ content, later.at? location = some (.file content)) ∧
      later.createFile path = .ok (location, later.put location (.file [])) := by
  obtain ⟨rfl, nonroot, writable, leads⟩ := createFile_holds creation
  have opened : Edits anywhere anywhere tree (tree.put location (.file [])) :=
    .put_file True.intro [] writable
  have since := opened.trans (edits.mono (fun _ _ => True.intro) fun _ _ => True.intro)
  obtain ⟨content, stands⟩ : ∃ content, later.at? location = some (.file content) := by
    have edit := edits.place location
    rw [at?_put_self tree _ nonroot] at edit
    generalize later.at? location = node at edit
    cases edit with
    | kept => exact ⟨[], rfl⟩
    | replaced allowed old now => exact ⟨now, rfl⟩
  refine ⟨⟨content, stands⟩, ?_⟩
  unfold createFile
  rw [resolve_write_of_find (leads since stands)]

end FileTree

/-! ## A directory made ready -/

open FileTree

theorem edits_ensureDirectory (tree : FileTree) (purpose : String) (path : Path) :
    Edits anywhere nowhere tree (ensureDirectory tree purpose path).tree := by
  unfold ensureDirectory
  cases found : tree.find path with
  | ok there =>
      obtain ⟨place, node⟩ := there
      cases node <;> exact .refl tree
  | error failure =>
      by_cases missing : failure = .missing
      · have made := edits_makeAll path.ancestors tree
        simp only [missing, ne_eq, not_true_eq_false, if_false]
        unfold makeDirectories
        generalize tree.makeAll path.ancestors = changed at made ⊢
        obtain ⟨left, reason | done⟩ := changed
        · exact made
        · exact made
      · simp only [ne_eq, missing, not_false_eq_true, if_true]
        exact .refl tree

theorem edits_ensureDirectories (purpose : String) (paths : List Path) (tree : FileTree) :
    Edits anywhere nowhere tree (ensureDirectories tree purpose paths).tree := by
  induction paths generalizing tree with
  | nil => exact .refl tree
  | cons path others ih =>
      have first := edits_ensureDirectory tree purpose path
      rw [ensureDirectories]
      cases ended : (ensureDirectory tree purpose path).outcome with
      | error failure => rwa [Activity.andThen_of_error _ ended]
      | ok made =>
          rw [Activity.andThen_of_ok _ ended]
          exact first.trans (ih _)

theorem ensureDirectory_of_found {tree : FileTree} {path : Path} {place : Location}
    (purpose : String) (found : tree.find path = .ok (place, .directory)) :
    ensureDirectory tree purpose path = .done tree false := by
  unfold ensureDirectory
  rw [found]

theorem find_of_ensureDirectory {tree : FileTree} {purpose : String} {path : Path} {made : Bool}
    (written : path.text ≠ "")
    (success : (ensureDirectory tree purpose path).outcome = .ok made) :
    ∃ place, (ensureDirectory tree purpose path).tree.find path = .ok (place, .directory) := by
  unfold ensureDirectory at success ⊢
  cases found : tree.find path with
  | ok there =>
      obtain ⟨place, node⟩ := there
      rw [found] at success
      cases node with
      | directory => exact ⟨place, found⟩
      | file content => cases success
      | link target => cases success
  | error failure =>
      simp only [found] at success ⊢
      split_ifs at success ⊢ with other
      · cases success
      · have there := @find_of_makeAll tree path (path.parentsUpTo path.text.length) written
        unfold makeDirectories Path.ancestors at success ⊢
        generalize tree.makeAll (path :: path.parentsUpTo path.text.length) = changed
          at success there ⊢
        obtain ⟨left, reason | _⟩ := changed
        · cases success
        · exact there rfl

/-- A directory that was made ready stays so, and to make it ready once more does nothing. -/
theorem ensureDirectory_again {tree later : FileTree} {purpose : String} {path : Path} {made : Bool}
    {directories files : Location → Prop}
    (success : (ensureDirectory tree purpose path).outcome = .ok made)
    (edits : Edits directories files (ensureDirectory tree purpose path).tree later) :
    (ensureDirectory later purpose path).tree = later ∧
      ∃ again, (ensureDirectory later purpose path).outcome = .ok again := by
  by_cases written : path.text = ""
  · -- Nothing is ever found at the empty path, and nothing is made there.
    have missing : later.find path = .error .missing := by simp [find, resolve, written]
    unfold ensureDirectory
    rw [missing]
    simp [makeDirectories, Path.ancestors, makeAll, written]
  · obtain ⟨place, there⟩ := find_of_ensureDirectory written success
    rw [ensureDirectory_of_found purpose (edits.find there)]
    exact ⟨rfl, false, rfl⟩

end Stagehand
