import Stagehand.FileTree.Basic
import Stagehand.Journal.Message

/-! # The journal of a run

The journal lists in order what the dispatcher asked of its collaborators and what it logged.  An
event keeps the spans it happened in, outermost first.
-/

set_option autoImplicit false

namespace Stagehand

/-- What a stop request is told: whether it came while a job was in flight. -/
inductive StopMode where
  | graceful
  | abrupt
deriving DecidableEq, Inhabited, Repr

/-- A request to a collaborator, or an answer that it hands out piece by piece. -/
inductive Call where
  | list (bucket startingWith : String)
  | get (bucket key : String)
  | chunk (key : String) (length : Nat)
  | release (key : String)
  | execute (name : String) (input output : Path) (found : FileTree)
  | stopDuringJob (mode : StopMode)
  | stopWhileWaiting (mode : StopMode)
  | nextDelivery
  | acknowledge (tag : UInt64)
  | close
deriving Inhabited, Repr

inductive Entry where
  | call (request : Call)
  | event (message : Message) (inside : List String)
  | opened (span : Span)
deriving Inhabited, Repr

namespace Entry

/-- A message outside every span. -/
def log (message : Message) : Entry :=
  .event message []

/-- The entry as part of the work of one more span around it. -/
def within (span : Span) : Entry → Entry
  | .event message inside => .event message (span.name :: inside)
  | entry => entry

def call? : Entry → Option Call
  | .call request => some request
  | _ => none

def message? : Entry → Option Message
  | .event message _ => some message
  | _ => none

end Entry

/-- Everything that happened inside a span, after the span itself. -/
def inSpan (span : Span) (entries : List Entry) : List Entry :=
  .opened span :: entries.map (Entry.within span)

def calls (entries : List Entry) : List Call :=
  entries.filterMap Entry.call?

def messages (entries : List Entry) : List Message :=
  entries.filterMap Entry.message?

@[simp] theorem calls_nil : calls [] = [] := rfl

@[simp] theorem calls_cons_call (request : Call) (entries : List Entry) :
    calls (.call request :: entries) = request :: calls entries := rfl

@[simp] theorem calls_cons_log (message : Message) (entries : List Entry) :
    calls (.log message :: entries) = calls entries := rfl

@[simp] theorem calls_append (first second : List Entry) :
    calls (first ++ second) = calls first ++ calls second := by
  simp [calls]

@[simp] theorem messages_nil : messages [] = [] := rfl

@[simp] theorem messages_cons_call (request : Call) (entries : List Entry) :
    messages (.call request :: entries) = messages entries := rfl

@[simp] theorem messages_cons_log (message : Message) (entries : List Entry) :
    messages (.log message :: entries) = message :: messages entries := rfl

@[simp] theorem messages_append (first second : List Entry) :
    messages (first ++ second) = messages first ++ messages second := by
  simp [messages]

@[simp] theorem calls_map_within (span : Span) (entries : List Entry) :
    calls (entries.map (Entry.within span)) = calls entries := by
  simp only [calls, List.filterMap_map]
  congr 1
  funext entry
  cases entry <;> rfl

@[simp] theorem calls_inSpan (span : Span) (entries : List Entry) :
    calls (inSpan span entries) = calls entries := by
  exact calls_map_within span entries

@[simp] theorem messages_map_within (span : Span) (entries : List Entry) :
    messages (entries.map (Entry.within span)) = messages entries := by
  simp only [messages, List.filterMap_map]
  congr 1
  funext entry
  cases entry <;> rfl

@[simp] theorem messages_inSpan (span : Span) (entries : List Entry) :
    messages (inSpan span entries) = messages entries := by
  exact messages_map_within span entries

/-- Everything that happened inside a span is told inside it. -/
theorem inside_of_mem_inSpan {span : Span} {entries : List Entry} {message : Message}
    {inside : List String} (member : .event message inside ∈ inSpan span entries) :
    ∃ deeper, inside = span.name :: deeper := by
  rcases List.mem_cons.mp member with opened | member
  · cases opened
  · obtain ⟨entry, -, same⟩ := List.mem_map.mp member
    cases entry with
    | event other outside =>
        cases same
        exact ⟨outside, rfl⟩
    | call | opened => cases same

end Stagehand
