import Stagehand.Proofs.Json.Tokens

/-! # Reading a value

A text is read as a value exactly if it is a JSON text of that value.  One way round, the tokens of a
value take the reading from where a value is awaited to where it is complete, whatever is open.  The
other way round, what has been read is at any time what the open arrays and objects, and the value
just completed, account for.
-/

set_option autoImplicit false

namespace Stagehand.Json

/-! ## Tokens of values -/

namespace Value

/-- A property of all values that arrays and objects have if what they hold has it. -/
@[induction_eliminator]
theorem byParts {motive : Value → Prop} (null : motive .null)
    (boolean : ∀ b, motive (.boolean b)) (number : ∀ lexeme, motive (.number lexeme))
    (text : ∀ raw, motive (.text raw))
    (array : ∀ items, (∀ item ∈ items, motive item) → motive (.array items))
    (object : ∀ members, (∀ member ∈ members, motive member.2) → motive (.object members))
    (value : Value) : motive value := by
  match value with
  | .null => exact null
  | .boolean b => exact boolean b
  | .number lexeme => exact number lexeme
  | .text raw => exact text raw
  | .array items =>
      exact array items fun item _ => byParts null boolean number text array object item
  | .object members =>
      exact object members fun member _ => byParts null boolean number text array object member.2
termination_by value
decreasing_by
  · rename_i member
    have smaller := List.sizeOf_lt_of_mem member
    simp only [Value.array.sizeOf_spec]
    omega
  · rename_i among
    have smaller := List.sizeOf_lt_of_mem among
    obtain ⟨key, inner⟩ := member
    simp only [Value.object.sizeOf_spec, Prod.mk.sizeOf_spec] at smaller ⊢
    omega

/-- The tokens of a member of an object. -/
def tokensOf (member : Bytes × Value) : List Token :=
  .text member.1 :: .colon :: member.2.tokens

theorem itemTokens_cons (item : Value) (others : List Value) :
    itemTokens (item :: others) =
      item.tokens ++ if others = [] then [] else .comma :: itemTokens others := by
  cases others <;> simp [itemTokens]

theorem memberTokens_cons (member : Bytes × Value) (others : List (Bytes × Value)) :
    memberTokens (member :: others) =
      tokensOf member ++ if others = [] then [] else .comma :: memberTokens others := by
  obtain ⟨key, value⟩ := member
  cases others <;> simp [memberTokens, tokensOf]

theorem itemTokens_concat (items : List Value) (last : Value) :
    itemTokens (items ++ [last]) =
      (items.flatMap fun item => item.tokens ++ [.comma]) ++ last.tokens := by
  induction items with
  | nil => simp [itemTokens]
  | cons item others ih =>
      rw [List.cons_append, itemTokens_cons, if_neg (by simp), ih]
      simp

theorem memberTokens_concat (members : List (Bytes × Value)) (last : Bytes × Value) :
    memberTokens (members ++ [last]) =
      (members.flatMap fun member => tokensOf member ++ [.comma]) ++ tokensOf last := by
  induction members with
  | nil => simp [memberTokens, tokensOf]
  | cons member others ih =>
      rw [List.cons_append, memberTokens_cons, if_neg (by simp), ih]
      simp

end Value

/-! ## Numbers in values stand apart -/

theorem Apart.separated {front back : List Token} {separator : Token}
    (other : separator.isNumber = false) (before : Apart front) (after : Apart back) :
    Apart (front ++ separator :: back) := by
  refine List.isChain_append.mpr ⟨before, ?_, ?_⟩
  · cases back with
    | nil => exact List.isChain_singleton _
    | cons next later => exact List.isChain_cons_cons.mpr ⟨Or.inl other, after⟩
  · intro last _ first found
    cases Option.some.inj found
    exact Or.inr other

theorem Apart.nil : Apart [] :=
  List.isChain_nil

theorem Apart.singleton (token : Token) : Apart [token] :=
  List.isChain_singleton token

theorem Apart.cons {back : List Token} {separator : Token} (other : separator.isNumber = false)
    (after : Apart back) : Apart (separator :: back) :=
  separated other .nil after

namespace Value

theorem apart_itemTokens {items : List Value} (each : ∀ item ∈ items, Apart item.tokens) :
    Apart (itemTokens items) := by
  induction items with
  | nil => exact .nil
  | cons item others ih =>
      obtain ⟨first, rest⟩ := List.forall_mem_cons.mp each
      rw [itemTokens_cons]
      split
      · rwa [List.append_nil]
      · exact .separated rfl first (ih rest)

theorem apart_memberTokens {members : List (Bytes × Value)}
    (each : ∀ member ∈ members, Apart member.2.tokens) : Apart (memberTokens members) := by
  induction members with
  | nil => exact .nil
  | cons member others ih =>
      obtain ⟨first, rest⟩ := List.forall_mem_cons.mp each
      have whole : Apart (tokensOf member) := .cons rfl (.cons rfl first)
      rw [memberTokens_cons]
      split
      · rwa [List.append_nil]
      · exact .separated rfl whole (ih rest)

theorem apart_tokens (value : Value) : Apart value.tokens := by
  induction value with
  | null => exact .singleton _
  | boolean b => exact .singleton _
  | number lexeme => exact .singleton _
  | text raw => exact .singleton _
  | array items each => exact .cons rfl (.separated rfl (apart_itemTokens each) .nil)
  | object members each => exact .cons rfl (.separated rfl (apart_memberTokens each) .nil)

end Value

/-! ## The tokens of a value are read as the value -/

namespace Reading

open Value

theorem steps_cons {reading next : Reading} {token : Token} {rest : List Token}
    (step : reading.step token = some next) : reading.steps (token :: rest) = next.steps rest := by
  simp only [steps, step]

/-- Where the first item of an array is awaited any value may stand. -/
theorem steps_firstItem (value : Value) (frames : List Frame) (rest : List Token) :
    steps ⟨.firstItem, .array [] :: frames⟩ (value.tokens ++ rest) =
      steps ⟨.value, .array [] :: frames⟩ (value.tokens ++ rest) := by
  cases value <;> rfl

theorem steps_firstKey (key : Bytes) (frames : List Frame) (rest : List Token) :
    steps ⟨.firstKey, .object [] :: frames⟩ (.text key :: rest) =
      steps ⟨.key, .object [] :: frames⟩ (.text key :: rest) := rfl

/-- The value takes the reading from where it is awaited to where it is complete. -/
def ReadThrough (value : Value) : Prop :=
  ∀ frames rest, steps ⟨.value, frames⟩ (value.tokens ++ rest) =
    steps ⟨.following value, frames⟩ rest

theorem steps_itemTokens {items : List Value} (each : ∀ item ∈ items, ReadThrough item)
    (nonempty : items ≠ []) (done : List Value) (frames : List Frame) (rest : List Token) :
    steps ⟨.value, .array done :: frames⟩ (itemTokens items ++ .closeBracket :: rest) =
      steps ⟨.following (.array (done.reverse ++ items)), frames⟩ rest := by
  induction items generalizing done with
  | nil => exact absurd rfl nonempty
  | cons item others ih =>
      obtain ⟨first, later⟩ := List.forall_mem_cons.mp each
      rw [itemTokens_cons, List.append_assoc, first]
      split
      · rename_i last
        rw [last, List.nil_append, steps_cons rfl, List.reverse_cons]
      · rename_i more
        rw [List.cons_append, steps_cons rfl, ih later more, List.reverse_cons]
        simp

theorem steps_memberTokens {members : List (Bytes × Value)}
    (each : ∀ member ∈ members, ReadThrough member.2) (nonempty : members ≠ [])
    (done : List (Bytes × Value)) (frames : List Frame) (rest : List Token) :
    steps ⟨.key, .object done :: frames⟩ (memberTokens members ++ .closeBrace :: rest) =
      steps ⟨.following (.object (done.reverse ++ members)), frames⟩ rest := by
  induction members generalizing done with
  | nil => exact absurd rfl nonempty
  | cons member others ih =>
      obtain ⟨first, later⟩ := List.forall_mem_cons.mp each
      rw [memberTokens_cons, List.append_assoc]
      simp only [tokensOf, List.cons_append]
      rw [steps_cons rfl, steps_cons rfl, first]
      split
      · rename_i last
        rw [last, List.nil_append, steps_cons rfl, List.reverse_cons]
      · rename_i more
        rw [List.cons_append, steps_cons rfl, ih later more, List.reverse_cons]
        simp

theorem steps_tokens (value : Value) : ReadThrough value := by
  induction value with
  | null => exact fun _ _ => rfl
  | boolean b => exact fun _ _ => rfl
  | number lexeme => exact fun _ _ => rfl
  | text raw => exact fun _ _ => rfl
  | array items each =>
      intro frames rest
      rw [tokens, List.cons_append, List.append_assoc, steps_cons rfl]
      cases items with
      | nil => rfl
      | cons item others =>
          have whole := steps_itemTokens each (List.cons_ne_nil _ _) [] frames rest
          rw [itemTokens_cons, List.append_assoc] at whole ⊢
          rw [steps_firstItem]
          exact whole
  | object members each =>
      intro frames rest
      rw [tokens, List.cons_append, List.append_assoc, steps_cons rfl]
      cases members with
      | nil => rfl
      | cons member others =>
          have whole := steps_memberTokens each (List.cons_ne_nil _ _) [] frames rest
          rw [memberTokens_cons, List.append_assoc] at whole ⊢
          exact (steps_firstKey _ _ _).trans whole

end Reading

/-! ## What has been read is accounted for -/

open Value in
/-- The tokens of an array or object that is still open, up to where it stands. -/
def Frame.tokens : Frame → List Token
  | .array items => .openBracket :: items.reverse.flatMap fun item => item.tokens ++ [.comma]
  | .object members => .openBrace :: members.reverse.flatMap fun member => tokensOf member ++ [.comma]
  | .member members key =>
      .openBrace :: ((members.reverse.flatMap fun member => tokensOf member ++ [.comma]) ++
        [.text key, .colon])

namespace Reading

open Value

/-- The tokens of all that is still open, outermost first. -/
def opened : List Frame → List Token
  | [] => []
  | frame :: frames => opened frames ++ frame.tokens

/-- What has been read is what is open, and the value just completed after it. -/
def Accounts (reading : Reading) (read : List Token) : Prop :=
  match reading.awaiting with
  | .following complete => read = opened reading.frames ++ complete.tokens
  | .colon => read ++ [.colon] = opened reading.frames
  | _ => read = opened reading.frames

variable {frames : List Frame} {token : Token} {next : Reading} {read : List Token}

theorem accounts_value (before : read = opened frames) (step : value frames token = some next) :
    next.Accounts (read ++ [token]) := by
  subst before
  unfold value at step
  split at step
  case h_7 => cases step
  all_goals
    cases Option.some.inj step
    rfl

theorem accounts_key (before : read = opened frames) (step : key frames token = some next) :
    next.Accounts (read ++ [token]) := by
  subst before
  unfold key at step
  split at step
  · cases Option.some.inj step
    simp [Accounts, opened, Frame.tokens]
  · cases step

theorem accounts_following {complete : Value} (before : read = opened frames ++ complete.tokens)
    (step : following complete frames token = some next) : next.Accounts (read ++ [token]) := by
  subst before
  unfold following at step
  split at step
  case h_1 =>
    cases Option.some.inj step
    simp [Accounts, opened, Frame.tokens]
  case h_2 =>
    cases Option.some.inj step
    simp [Accounts, opened, Frame.tokens, tokens, itemTokens_concat]
  case h_3 =>
    cases Option.some.inj step
    simp [Accounts, opened, Frame.tokens, tokensOf]
  case h_4 =>
    cases Option.some.inj step
    simp [Accounts, opened, Frame.tokens, tokens, memberTokens_concat, tokensOf]
  case h_5 => cases step

theorem step_firstItem (frames : List Frame) (token : Token) :
    step ⟨.firstItem, frames⟩ token = value frames token ∨
      ∃ outer, frames = .array [] :: outer ∧ token = .closeBracket ∧
        step ⟨.firstItem, frames⟩ token = some ⟨.following (.array []), outer⟩ := by
  unfold step
  split <;> simp_all

theorem step_firstKey (frames : List Frame) (token : Token) :
    step ⟨.firstKey, frames⟩ token = key frames token ∨
      ∃ outer, frames = .object [] :: outer ∧ token = .closeBrace ∧
        step ⟨.firstKey, frames⟩ token = some ⟨.following (.object []), outer⟩ := by
  unfold step
  split <;> simp_all

theorem accounts_step {reading : Reading} (before : reading.Accounts read)
    (step : reading.step token = some next) : next.Accounts (read ++ [token]) := by
  obtain ⟨awaiting, frames⟩ := reading
  cases awaiting with
  | value => exact accounts_value before step
  | key => exact accounts_key before step
  | following complete => exact accounts_following before step
  | colon =>
      cases token with
      | colon =>
          cases Option.some.inj step
          exact before
      | _ => cases step
  -- Unless the array or object ends right away, its first part is awaited like any other.
  | firstItem =>
      rcases step_firstItem frames token with same | ⟨outer, rfl, rfl, closed⟩
      · exact accounts_value before (same ▸ step)
      · cases Option.some.inj (closed.symm.trans step)
        have before : read = opened (.array [] :: outer) := before
        simp [before, Accounts, opened, Frame.tokens, tokens, itemTokens]
  | firstKey =>
      rcases step_firstKey frames token with same | ⟨outer, rfl, rfl, closed⟩
      · exact accounts_key before (same ▸ step)
      · cases Option.some.inj (closed.symm.trans step)
        have before : read = opened (.object [] :: outer) := before
        simp [before, Accounts, opened, Frame.tokens, tokens, memberTokens]

theorem accounts_steps {reading last : Reading} {tokens : List Token}
    (before : reading.Accounts read) (run : reading.steps tokens = some last) :
    last.Accounts (read ++ tokens) := by
  induction tokens generalizing reading read with
  | nil =>
      cases Option.some.inj run
      rwa [List.append_nil]
  | cons token rest ih =>
      rw [steps] at run
      split at run
      · cases run
      · rename_i next step
        have after := ih (accounts_step before step) run
        rwa [List.append_assoc, List.singleton_append] at after

theorem result?_eq_some_iff {reading : Reading} {value : Value} :
    reading.result? = some value ↔ reading = ⟨.following value, []⟩ := by
  obtain ⟨awaiting, frames⟩ := reading
  unfold result?
  split <;> simp_all

end Reading

/-! ## Texts of values -/

/-- A text is read as a value exactly if it is a JSON text of it. -/
theorem Value.parse?_eq_some_iff {text : Bytes} {value : Value} :
    parse? text = some value ↔ value.IsText text := by
  unfold parse? IsText
  simp only [Option.bind_eq_bind, Option.bind_eq_some_iff]
  constructor
  · rintro ⟨tokens, lexed, reading, run, complete⟩
    have nothing : Reading.start.Accounts [] := rfl
    have accounts := Reading.accounts_steps nothing run
    rw [Reading.result?_eq_some_iff.mp complete] at accounts
    have same : tokens = value.tokens := accounts
    exact same ▸ written_of_tokens? lexed
  · intro written
    have run := Reading.steps_tokens value [] []
    rw [List.append_nil] at run
    exact ⟨_, tokens?_of_written written (apart_tokens value), _, run, rfl⟩

theorem Value.IsText.unique {text : Bytes} {value other : Value} (first : value.IsText text)
    (second : other.IsText text) : value = other := by
  have same := parse?_eq_some_iff.mpr first
  rw [parse?_eq_some_iff.mpr second] at same
  exact (Option.some.inj same).symm

end Stagehand.Json
