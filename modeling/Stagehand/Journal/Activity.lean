import Stagehand.Journal.Entry

/-! # Work in the file system

An activity is what a piece of work in the file system comes to: the tree it leaves, the journal of
what it did on the way, and its result.  One that fails keeps what it had done before.
-/

set_option autoImplicit false

namespace Stagehand

/-- The tree left behind, the journal, and the result of a piece of work. -/
structure Activity (failure result : Type) where
  tree : FileTree
  journal : List Entry
  outcome : Except failure result

namespace Activity

variable {failure other result final : Type}

def done (tree : FileTree) (value : result) : Activity failure result :=
  ⟨tree, [], .ok value⟩

def failed (tree : FileTree) (reason : failure) : Activity failure result :=
  ⟨tree, [], .error reason⟩

def after (entries : List Entry) (activity : Activity failure result) : Activity failure result :=
  { activity with journal := entries ++ activity.journal }

def andLog (activity : Activity failure result) (entries : List Entry) :
    Activity failure result :=
  { activity with journal := activity.journal ++ entries }

/-- A second activity on the tree that the first one left, if the first one did not fail. -/
def andThen (first : Activity failure result)
    (next : FileTree → result → Activity failure final) : Activity failure final :=
  match first.outcome with
  | .error reason => ⟨first.tree, first.journal, .error reason⟩
  | .ok value => (next first.tree value).after first.journal

/-- The activity with its result seen in another way. -/
def map (view : result → final) (activity : Activity failure result) : Activity failure final :=
  { activity with outcome := activity.outcome.map view }

/-- The activity with its failure told in another way. -/
def mapFailure (rename : failure → other) (activity : Activity failure result) :
    Activity other result :=
  { activity with outcome := activity.outcome.mapError rename }

@[simp] theorem tree_after (entries : List Entry) (activity : Activity failure result) :
    (activity.after entries).tree = activity.tree := rfl

@[simp] theorem journal_after (entries : List Entry) (activity : Activity failure result) :
    (activity.after entries).journal = entries ++ activity.journal := rfl

@[simp] theorem outcome_after (entries : List Entry) (activity : Activity failure result) :
    (activity.after entries).outcome = activity.outcome := rfl

@[simp] theorem tree_mapFailure (rename : failure → other) (activity : Activity failure result) :
    (activity.mapFailure rename).tree = activity.tree := rfl

@[simp] theorem journal_mapFailure (rename : failure → other)
    (activity : Activity failure result) :
    (activity.mapFailure rename).journal = activity.journal := rfl

@[simp] theorem outcome_mapFailure (rename : failure → other)
    (activity : Activity failure result) :
    (activity.mapFailure rename).outcome = activity.outcome.mapError rename := rfl

@[simp] theorem tree_map (view : result → final) (activity : Activity failure result) :
    (activity.map view).tree = activity.tree := rfl

@[simp] theorem journal_map (view : result → final) (activity : Activity failure result) :
    (activity.map view).journal = activity.journal := rfl

@[simp] theorem outcome_map (view : result → final) (activity : Activity failure result) :
    (activity.map view).outcome = activity.outcome.map view := rfl

@[simp] theorem tree_andLog (activity : Activity failure result) (entries : List Entry) :
    (activity.andLog entries).tree = activity.tree := rfl

@[simp] theorem journal_andLog (activity : Activity failure result) (entries : List Entry) :
    (activity.andLog entries).journal = activity.journal ++ entries := rfl

@[simp] theorem outcome_andLog (activity : Activity failure result) (entries : List Entry) :
    (activity.andLog entries).outcome = activity.outcome := rfl

theorem andThen_of_error {first : Activity failure result} {reason : failure}
    (next : FileTree → result → Activity failure final) (h : first.outcome = .error reason) :
    first.andThen next = ⟨first.tree, first.journal, .error reason⟩ := by
  simp [andThen, h]

theorem andThen_of_ok {first : Activity failure result} {value : result}
    (next : FileTree → result → Activity failure final) (h : first.outcome = .ok value) :
    first.andThen next = (next first.tree value).after first.journal := by
  simp [andThen, h]

end Activity
end Stagehand
