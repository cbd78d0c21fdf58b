import Stagehand.Proofs.Yaml.Tokens
import Stagehand.Yaml.Node

/-! # The node of data in braces

The pieces of a value may stand where a value is awaited.  Their tokens are read as the events of a
mapping or a scalar, and these build the node of the value, whatever they are part of.  So a text in
braces is a document with just that node.
-/

set_option autoImplicit false

namespace Stagehand.Yaml

namespace Datum

/-! ## Pieces -/

theorem runs_memberPieces {members : List (String × Datum)} (nonempty : members ≠ [])
    (each : ∀ member ∈ members, ∀ more,
      member.2.pieces.foldlM Spot.next? (.value more) = some (.done (more + 1))) (more : Nat) :
    (memberPieces members).foldlM Spot.next? (.member more) = some (.done (more + 1)) := by
  induction members with
  | nil => exact absurd rfl nonempty
  | cons member others ih =>
      obtain ⟨first, later⟩ := List.forall_mem_cons.mp each
      rw [memberPieces_cons, List.foldlM_cons, Spot.next?, Option.bind_eq_bind, Option.bind_some,
        List.foldlM_append, first more, Option.bind_eq_bind, Option.bind_some]
      split
      · rfl
      · rename_i further
        rw [List.foldlM_cons, Spot.next?, Option.bind_eq_bind, Option.bind_some]
        exact ih further later

theorem runs_object {members : List (String × Datum)}
    (each : ∀ member ∈ members, ∀ more,
      member.2.pieces.foldlM Spot.next? (.value more) = some (.done (more + 1))) (more : Nat) :
    (memberPieces members ++ [Piece.closing]).foldlM Spot.next? (.member more) = some (.done more) := by
  rw [List.foldlM_append]
  by_cases empty : members = []
  · subst empty
    rfl
  · rw [runs_memberPieces empty each more]
    rfl

/-- A value may stand wherever a value is awaited. -/
theorem runs_pieces (value : Datum) (more : Nat) :
    value.pieces.foldlM Spot.next? (.value more) = some (.done (more + 1)) := by
  induction value generalizing more with
  | text => rfl
  | flag => rfl
  | word => rfl
  | object members ih =>
      rw [pieces, List.foldlM_cons, Spot.next?, Option.bind_eq_bind, Option.bind_some]
      exact runs_object ih (more + 1)

theorem runs_outer (members : List (String × Datum)) :
    (object members).pieces.foldlM Spot.next? .outer = some (.done 0) := by
  rw [pieces, List.foldlM_cons, Spot.next?, Option.bind_eq_bind, Option.bind_some]
  exact runs_object (fun member _ => runs_pieces member.2) 0

/-- The tokens that a value is read as. -/
def tokens (value : Datum) : List Token :=
  value.pieces.flatMap Piece.tokens

mutual

/-- The events that a value is read as. -/
def events : Datum → List Event
  | text value => [.scalar {} value.toList .doubleQuoted]
  | flag value => [.scalar {} (toString value).toList .plain]
  | word value => [.scalar {} (toString value).toList .plain]
  | object members => .mappingStart {} :: (memberEvents members ++ [.mappingEnd])

def memberEvents : List (String × Datum) → List Event
  | [] => []
  | (name, value) :: others =>
      .scalar {} name.toList .doubleQuoted :: (value.events ++ memberEvents others)

end

/-- The first token of a value is neither a mark nor missing. -/
theorem exists_tokens_eq (value : Datum) :
    ∃ token rest, value.tokens = token :: rest ∧ Parse.stopsFlowPair token = false := by
  cases value with
  | text value => exact ⟨_, _, rfl, rfl⟩
  | flag value => exact ⟨_, _, rfl, rfl⟩
  | word value => exact ⟨_, _, rfl, rfl⟩
  | object members => exact ⟨_, _, rfl, rfl⟩

end Datum

namespace Parse

variable {tokens : List Token} {goals : List Goal} {handles : Handles} {events out : List Event}

/-- The parse comes to its end with these events.  Each goal reads a token or is one less. -/
def Yields (parse : Parse) (out : List Event) : Prop :=
  ∀ bound, 3 * parse.tokens.length + parse.goals.length + 2 < bound → finish bound parse = some out

theorem yields_of_reach {goal : Goal} {next : Parse}
    (reached : reach ⟨tokens, goals, handles, events⟩ goal = some next)
    (fewer : 3 * next.tokens.length + next.goals.length ≤ 3 * tokens.length + goals.length)
    (later : next.Yields out) : Yields ⟨tokens, goal :: goals, handles, events⟩ out := by
  intro bound enough
  simp only [List.length_cons] at enough
  obtain ⟨less, rfl⟩ := Nat.exists_eq_add_one.mpr (Nat.zero_lt_of_lt enough)
  rw [finish]
  simp only [reached]
  exact later less (by omega)

/-- What it takes to read a value where one is awaited. -/
def Reads (value : Datum) : Prop :=
  ∀ {tokens : List Token} {goals : List Goal} {handles : Handles} {events out : List Event}
    (block unindented : Bool), Yields ⟨tokens, goals, handles, value.events.reverse ++ events⟩ out →
      Yields ⟨value.tokens ++ tokens, .node block unindented :: goals, handles, events⟩ out

/-- The member of a mapping, after the comma before it unless it is the first one. -/
theorem yields_member {name : List Char} {value : Datum} {first : Bool}
    (reads : Reads value)
    (later : Yields ⟨tokens, .flowKeys false :: goals, handles,
      value.events.reverse ++ .scalar {} name .doubleQuoted :: events⟩ out) :
    Yields ⟨(if first then [] else [.flowEntry]) ++
        .key :: .scalar name .doubleQuoted :: .value :: (value.tokens ++ tokens),
      .flowKeys first :: goals, handles, events⟩ out := by
  obtain ⟨token, rest, shape, goesOn⟩ := value.exists_tokens_eq
  have awaited : Yields ⟨.value :: (value.tokens ++ tokens), .flowValue :: .flowKeys false :: goals,
      handles, .scalar {} name .doubleQuoted :: events⟩ out := by
    refine yields_of_reach ?_ ?_ (reads false false later)
    · simp [reach, nodeUnless, shape, goesOn, go]
    · simp only [List.length_cons]; omega
  have named : Yields ⟨.scalar name .doubleQuoted :: .value :: (value.tokens ++ tokens),
      .node false false :: .flowValue :: .flowKeys false :: goals, handles, events⟩ out := by
    refine yields_of_reach ?_ ?_ awaited
    · simp [reach, node, properties, go]
    · simp only [List.length_cons]; omega
  refine yields_of_reach ?_ ?_ named
  · cases first <;> simp [reach, flowKey, nodeUnless, stopsFlowPair, go]
  · cases first <;> simp <;> omega

/-- The end of a mapping, where no comma comes. -/
theorem yields_mappingEnd {first : Bool}
    (later : Yields ⟨tokens, goals, handles, .mappingEnd :: events⟩ out) :
    Yields ⟨.flowMappingEnd :: tokens, .flowKeys first :: goals, handles, events⟩ out := by
  refine yields_of_reach ?_ ?_ later
  · cases first <;> simp [reach, flowKey, go]
  · simp only [List.length_cons]; omega

/-- The members of an object, with a comma before the first of them unless it opens the object. -/
theorem yields_members {members : List (String × Datum)} (each : ∀ member ∈ members, Reads member.2)
    (nonempty : members ≠ []) (first : Bool)
    (later : Yields ⟨tokens, .flowKeys false :: goals, handles,
      (Datum.memberEvents members).reverse ++ events⟩ out) :
    Yields ⟨(if first then [] else [.flowEntry]) ++
        ((Datum.memberPieces members).flatMap Piece.tokens ++ tokens),
      .flowKeys first :: goals, handles, events⟩ out := by
  induction members generalizing first events with
  | nil => exact absurd rfl nonempty
  | cons member others ih =>
      obtain ⟨here, behind⟩ := List.forall_mem_cons.mp each
      have shape : (Datum.memberPieces (member :: others)).flatMap Piece.tokens ++ tokens =
          .key :: .scalar member.1.toList .doubleQuoted :: .value ::
            (member.2.tokens ++ ((if others = [] then [] else .flowEntry ::
              (Datum.memberPieces others).flatMap Piece.tokens) ++ tokens)) := by
        rw [Datum.memberPieces_cons, Datum.tokens]
        split <;> simp [Piece.tokens]
      rw [shape]
      refine yields_member here ?_
      rw [Datum.memberEvents] at later
      by_cases last : others = []
      · subst last
        simpa [Datum.memberEvents] using later
      · rw [if_neg last]
        exact ih behind last false (by simpa using later)

theorem reads (value : Datum) : Reads value := by
  induction value with
  | text | flag | word =>
      intro tokens goals handles events out block unindented later
      refine yields_of_reach ?_ ?_ later
      · simp [reach, Datum.tokens, Datum.pieces, Piece.tokens, node, properties, go, Datum.events]
      · change 3 * tokens.length + goals.length ≤ 3 * (tokens.length + 1) + goals.length
        omega
  | object members ih =>
      intro tokens goals handles events out block unindented later
      have shape : (Datum.object members).tokens ++ tokens =
          .flowMappingStart :: ((Datum.memberPieces members).flatMap Piece.tokens ++
            .flowMappingEnd :: tokens) := by
        simp [Datum.tokens, Datum.pieces, Piece.tokens]
      have ended : Yields ⟨.flowMappingEnd :: tokens, .flowKeys false :: goals, handles,
          (Datum.memberEvents members).reverse ++ .mappingStart {} :: events⟩ out :=
        yields_mappingEnd (by simpa [Datum.events] using later)
      have opened : Yields ⟨(Datum.memberPieces members).flatMap Piece.tokens ++
            .flowMappingEnd :: tokens,
          .flowKeys true :: goals, handles, .mappingStart {} :: events⟩ out := by
        by_cases empty : members = []
        · subst empty
          exact yields_mappingEnd (by simpa [Datum.events, Datum.memberEvents] using later)
        · exact yields_members ih empty true ended
      rw [shape]
      refine yields_of_reach ?_ ?_ opened
      · simp [reach, node, properties, go]
      · simp only [List.length_cons]; omega

theorem yields_documentEnd :
    Yields ⟨[.streamEnd], [.documentEnd], handles, events⟩ (.documentEnd :: events).reverse := by
  intro bound enough
  simp only [List.length_singleton] at enough
  obtain ⟨less, rfl⟩ : ∃ less, bound = less + 3 := ⟨bound - 3, by omega⟩
  simp [finish, reach, documentEnd, document, go]

end Parse

theorem events?_object (members : List (String × Datum)) :
    events? ((Datum.object members).tokens ++ [.streamEnd]) =
      some (.documentStart :: ((Datum.object members).events ++ [.documentEnd])) := by
  have finished := Parse.reads (.object members) true false
    (@Parse.yields_documentEnd defaultHandles
      ((Datum.object members).events.reverse ++ [.documentStart]))
  have opened : ((⟨(Datum.object members).tokens ++ [.streamEnd], [], [], []⟩ : Parse).reach
      (.document true)) = some ⟨(Datum.object members).tokens ++ [.streamEnd],
        [.node true false, .documentEnd], defaultHandles, [.documentStart]⟩ := by
    simp [Parse.reach, Parse.document, Datum.tokens, Datum.pieces, Piece.tokens,
      Parse.startsDocument, Parse.go]
  rw [events?, Parse.finish]
  simp only [opened]
  rw [finished _ (by simp; omega)]
  simp

/-! ## From events to a node -/

namespace Datum

theorem documentStart_not_mem_events (value : Datum) : Event.documentStart ∉ value.events := by
  induction value with
  | text | flag | word => simp [events]
  | object members ih =>
      have inside : Event.documentStart ∉ memberEvents members := by
        induction members with
        | nil => simp [memberEvents]
        | cons member others rest =>
            obtain ⟨first, later⟩ := List.forall_mem_cons.mp ih
            simp [memberEvents, first, rest later]
      simp [events, inside]

end Datum

namespace Composition

theorem steps_append (composition : Composition) (front back : List Event) :
    composition.steps (front ++ back) = (composition.steps front).bind (·.steps back) := by
  rw [steps, List.foldlM_append]
  rfl

/-- The members of an object are put into the mapping that is open. -/
theorem steps_memberEvents {members : List (String × Datum)}
    (each : ∀ member ∈ members, ∀ composition : Composition,
      composition.steps member.2.events = some (composition.add none member.2.node))
    (composition : Composition) (pairs : List (Node × Node)) (frames : List OpenNode) :
    ∃ root, { composition with frames := .mapping none pairs :: frames }.steps
        (Datum.memberEvents members) =
      some { composition with
        frames := .mapping none ((Datum.memberNodes members).reverse ++ pairs) :: frames
        root := root } := by
  induction members generalizing composition pairs with
  | nil => exact ⟨composition.root, rfl⟩
  | cons member others ih =>
      obtain ⟨first, later⟩ := List.forall_mem_cons.mp each
      obtain ⟨root, rest⟩ := ih later { composition with root := none }
        ((.scalar member.1.toList .doubleQuoted none, member.2.node) :: pairs)
      refine ⟨root, ?_⟩
      rw [Datum.memberEvents, Datum.memberNodes]
      change (steps { composition with
        frames := .pair none pairs (.scalar member.1.toList .doubleQuoted none) :: frames
        root := none } (member.2.events ++ Datum.memberEvents others)) = _
      rw [steps_append, first, Option.bind_some]
      refine rest.trans ?_
      simp

theorem steps_events (value : Datum) (composition : Composition) :
    composition.steps value.events = some (composition.add none value.node) := by
  induction value generalizing composition with
  | text | flag | word => rfl
  | object members ih =>
      obtain ⟨root, inside⟩ := steps_memberEvents ih composition [] composition.frames
      rw [Datum.events]
      change steps { composition with frames := .mapping none [] :: composition.frames }
        (Datum.memberEvents members ++ [.mappingEnd]) = _
      rw [steps_append, inside, Option.bind_some]
      simp [steps, step, Datum.node, add]

end Composition

/-- A text in braces is a document with the node of its value. -/
theorem Document.parse?_of_isText {members : List (String × Datum)} {text : String}
    (written : (Datum.object members).IsText text) (printable : (Datum.object members).Printable) :
    Document.parse? text = some ⟨(Datum.object members).node, [], []⟩ := by
  have read := tokens?_of_written written printable (Datum.runs_outer members)
  have single : (.documentStart :: ((Datum.object members).events ++ [.documentEnd])).count
      Event.documentStart = 1 := by
    rw [List.count_cons_self, List.count_append,
      List.count_eq_zero_of_not_mem (Datum.documentStart_not_mem_events _)]
    rfl
  have built : Composition.steps {} (.documentStart ::
      ((Datum.object members).events ++ [.documentEnd])) =
      some (Composition.add {} none (Datum.object members).node) := by
    change Composition.steps {} ((Datum.object members).events ++ [.documentEnd]) = _
    rw [Composition.steps_append, Composition.steps_events]
    rfl
  have told := events?_object members
  rw [Datum.tokens] at told
  rw [parse?, read, Option.bind_eq_bind, Option.bind_some, told, Option.bind_eq_bind,
    Option.bind_some, ofEvents?, if_neg (by simp [single]), built]
  rfl

-- A name and its colon have to stand in one line.
example : (Document.parse? "\x7b\"a\"\n: 1\x7d").isNone = true := by decide +kernel

end Stagehand.Yaml
