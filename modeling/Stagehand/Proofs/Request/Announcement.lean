import Stagehand.Proofs.Request.Decision

/-! # The number of files that a body announces

A body can announce how many files the payload has, beside what it asks for.  Two bodies that are
alike but for this number are read alike: both make no request, for the same reason, or both make
requests that differ in nothing else.
-/

set_option autoImplicit false

namespace Stagehand

open Json

namespace Body

/-! ## The values under a key -/

/-- The values that stand under the key of the member, in whatever spelling. -/
def under (member : Member) (members : List (Bytes × Value)) : List Value :=
  (members.filter fun pair => textOf? pair.1 = some member.key).map Prod.snd

/-- The key is a text. -/
def HasKey (pair : Bytes × Value) : Prop :=
  ∃ key, textOf? pair.1 = some key

theorem under_cons (member : Member) (raw : Bytes) (value : Value)
    (others : List (Bytes × Value)) : under member ((raw, value) :: others) =
      if textOf? raw = some member.key then value :: under member others
      else under member others := by
  unfold under
  split <;> simp [*]

variable {before final body : Body} {seen : List Member} {members others : List (Bytes × Value)}

theorem Member.same_refl (member : Member) (body : Body) : member.Same body body := by
  cases member <;> rfl

/-- An object that is read carries each member at most once, and those already seen not again. -/
theorem carried_of_addMembers? (spelled : ∀ pair ∈ members, pair.2.WellSpelled)
    (read : before.addMembers? seen members = some final) :
    (∀ pair ∈ members, HasKey pair) ∧ (∀ member ∈ seen, under member members = []) ∧
      ∀ member, Carried member before final (under member members) := by
  -- A member that is read counts as seen from there on, so it stands nowhere in the rest, and what it
  -- was given is kept to the end.
  induction members generalizing before seen with
  | nil =>
      cases Option.some.inj read
      exact ⟨List.forall_mem_nil _, fun _ _ => rfl, fun member => .absent (member.same_refl _)⟩
  | cons pair others ih =>
      obtain ⟨raw, value⟩ := pair
      obtain ⟨proper, later⟩ := List.forall_mem_cons.mp spelled
      rw [addMembers?] at read
      split at read
      · cases read
      rename_i key said
      have apart {member : Member} (other : key ≠ member.key) :
          under member ((raw, value) :: others) = under member others := by
        rw [under_cons, said, if_neg fun same => other (Option.some.inj same)]
      split at read
      · rename_i unknown
        obtain ⟨keys, fresh, carried⟩ := ih later read
        have other (member : Member) : key ≠ member.key := fun same => by
          rw [Member.ofKey?_eq_some_iff.mpr same] at unknown
          cases unknown
        refine ⟨List.forall_mem_cons.mpr ⟨⟨key, said⟩, keys⟩, fun member known => ?_,
          fun member => ?_⟩
        · exact (apart (other member)).trans (fresh member known)
        · exact (apart (other member)).symm ▸ carried member
      · rename_i member known
        obtain rfl := Member.ofKey?_eq_some_iff.mp known
        split at read
        · cases read
        rename_i unseen
        split at read
        · cases read
        rename_i next set
        obtain ⟨keys, fresh, carried⟩ := ih later read
        have different {other : Member} (distinct : other ≠ member) :
            member.key ≠ other.key := fun same => distinct (Member.key_injective same).symm
        refine ⟨List.forall_mem_cons.mpr ⟨⟨_, said⟩, keys⟩, fun other known => ?_, fun other => ?_⟩
        · have distinct : other ≠ member := fun same => unseen (same ▸ known)
          exact (apart (different distinct)).trans (fresh other (List.mem_cons_of_mem _ known))
        · by_cases distinct : other = member
          · subst distinct
            have alone := fresh other List.mem_cons_self
            have kept := carried other
            rw [alone] at kept
            cases kept with
            | absent same =>
                rw [under_cons, if_pos said, alone]
                exact .once ((gives_of_set? proper set).congr same.symm)
          · rw [apart (different distinct)]
            exact (carried other).continued (set?_same set other distinct)

theorem named_of_hasKey (spelled : ∀ pair ∈ members, Quotable pair.1)
    (keys : ∀ pair ∈ members, HasKey pair) :
    ∃ named, Named members named ∧ ∀ member, valuesOf member named = under member members := by
  induction members with
  | nil => exact ⟨[], .nil, fun _ => rfl⟩
  | cons pair others ih =>
      obtain ⟨raw, value⟩ := pair
      obtain ⟨quotable, later⟩ := List.forall_mem_cons.mp spelled
      obtain ⟨⟨key, said⟩, rest⟩ := List.forall_mem_cons.mp keys
      obtain ⟨named, names, same⟩ := ih later rest
      refine ⟨(key, value) :: named,
        .cons ⟨(textOf?_eq_some_iff quotable).mp said, rfl⟩ names, fun member => ?_⟩
      dsimp only at said
      simp only [valuesOf_cons, under_cons, said, Option.some.injEq, same]

/-- An object is read as the body that it carries, and not at all if it carries none. -/
theorem parse?_object_iff {content : Bytes} (text : (Value.object members).IsText content) :
    parse? content = some body ↔ (∀ pair ∈ members, HasKey pair) ∧
      ∀ member, Carried member {} body (under member members) := by
  have spelled := Value.wellSpelled_members (Written.spelled text)
  constructor
  · intro read
    rw [parse?, Value.parse?_eq_some_iff.mpr text, Option.bind_some, ofValue?] at read
    obtain ⟨keys, -, carried⟩ :=
      carried_of_addMembers? (fun pair among => (spelled pair among).2) read
    exact ⟨keys, carried⟩
  · rintro ⟨keys, carried⟩
    obtain ⟨named, names, same⟩ :=
      named_of_hasKey (fun pair among => (spelled pair among).1) keys
    exact Request.parse?_of_object text names fun member => (same member).symm ▸ carried member

/-! ## Apart from the announcement -/

/-- The members of an object but for the number of files. -/
def withoutCount (members : List (Bytes × Value)) : List (Bytes × Value) :=
  members.filter fun pair => textOf? pair.1 ≠ some Member.fileCount.key

/-- What a body says apart from the number: the other members of an object, or the first three values
of a list. -/
inductive Rest where
  | members (others : List (Bytes × Value))
  | values (payloadId workflows correlationId : Value)

/-- The text is a body that says this and announces the number, or none.  The members of an object
stand in any order. -/
inductive Tells (content : Bytes) : Rest → Option UInt64 → Prop where
  | object {members others : List (Bytes × Value)} {count : Option UInt64}
      (text : (Value.object members).IsText content)
      (same : (withoutCount members).Perm others)
      (announced : Carried .fileCount {} { fileCount := count } (under .fileCount members)) :
      Tells content (.members others) count
  | list {payloadId workflows correlationId number : Value} {count : Option UInt64}
      (text : (Value.array [payloadId, workflows, correlationId, number]).IsText content)
      (announced : Optional IsCount number count) :
      Tells content (.values payloadId workflows correlationId) count

/-- The number of files is announced as this one. -/
def Announces (content : Bytes) (count : UInt64) : Prop :=
  ∃ rest, Tells content rest (some count)

/-- The texts are the same, or bodies that say the same apart from the number of files. -/
def AlikeButCount (a b : Bytes) : Prop :=
  a = b ∨ ∃ rest count count', Tells a rest count ∧ Tells b rest count'

/-- The body without the number of files. -/
def uncounted (body : Body) : Body :=
  { body with fileCount := none }

theorem IsCount.unique {value : Value} {count count' : UInt64} (is : IsCount value count)
    (again : IsCount value count') : count' = count := by
  have same := Value.number.inj (again.symm.trans is)
  have read := congrArg decimalValue same
  rw [(decimals_read _).2, (decimals_read _).2] at read
  exact UInt64.toNat_inj.mp read

theorem Optional.count_unique {value : Value} {count count' : Option UInt64}
    (is : Optional IsCount value count) (again : Optional IsCount value count') :
    count' = count := by
  cases is with
  | null =>
      cases again with
      | null => rfl
      | some is => cases is
  | some is =>
      cases again with
      | null => cases is
      | some again => rw [is.unique again]

namespace Carried

variable {member : Member} {values values' : List Value}

theorem perm (carried : Carried member before body values) (same : values.Perm values') :
    Carried member before body values' := by
  cases carried with
  | absent kept => exact same.nil_eq ▸ .absent kept
  | once gives => exact (List.singleton_perm.mp same) ▸ .once gives

theorem congr (carried : Carried member before body values) (same : member.Same body final) :
    Carried member before final values := by
  cases carried with
  | absent kept => exact .absent (same.symm.trans kept)
  | once gives => exact .once (gives.congr same)

theorem count_unique {count : Option UInt64} (carried : Carried .fileCount {} body values)
    (announced : Carried .fileCount {} { fileCount := count } values) : body.fileCount = count := by
  cases carried with
  | absent none =>
      cases announced with
      | absent none' => exact none.trans none'.symm
  | once gives =>
      cases announced with
      | once gives' => exact Optional.count_unique gives' gives

end Carried

theorem under_other {member : Member} (other : member ≠ .fileCount) :
    under member (withoutCount members) = under member members := by
  unfold under withoutCount
  rw [List.filter_filter]
  congr 1
  refine List.filter_congr fun pair _ => ?_
  by_cases here : textOf? pair.1 = some member.key
  · have apart : member.key ≠ Member.fileCount.key := fun same => other (Member.key_injective same)
    simp [here, apart]
  · simp [here]

theorem hasKey_iff_of_perm (same : (withoutCount members).Perm others) :
    (∀ pair ∈ members, HasKey pair) ↔ ∀ pair ∈ others, HasKey pair := by
  constructor
  · intro keys pair among
    exact keys pair (List.mem_of_mem_filter (same.mem_iff.mpr among))
  · intro keys pair among
    by_cases counted : textOf? pair.1 = some Member.fileCount.key
    · exact ⟨_, counted⟩
    · exact keys pair (same.mem_iff.mp (List.mem_filter.mpr ⟨among, by simpa using counted⟩))

theorem under_perm {member : Member} (other : member ≠ .fileCount)
    (same : (withoutCount members).Perm others) :
    (under member members).Perm (under member others) := by
  rw [← under_other other]
  exact (same.filter _).map _

/-- A body is read with the number that it announces, and one that says the same is read with its
own. -/
theorem parse?_of_tells {a b : Bytes} {rest : Rest} {count count' : Option UInt64}
    (told : Tells a rest count) (toldToo : Tells b rest count') (read : parse? a = some body) :
    body.fileCount = count ∧ parse? b = some { body with fileCount := count' } := by
  have kept {member : Member} (other : member ≠ .fileCount) :
      member.Same body { body with fileCount := count' } := by
    cases member <;> first | rfl | exact absurd rfl other
  -- What both say is the same, so both are objects or both are lists.
  cases told with
  | object text same announced =>
      cases toldToo with
      | object text' same' announced' =>
          obtain ⟨keys, carried⟩ := (parse?_object_iff text).mp read
          refine ⟨(carried .fileCount).count_unique announced, (parse?_object_iff text').mpr ⟨?_, ?_⟩⟩
          · exact (hasKey_iff_of_perm same').mpr ((hasKey_iff_of_perm same).mp keys)
          · intro member
            by_cases other : member = .fileCount
            · subst other
              exact announced'.congr rfl
            · have moved := (under_perm other same).trans (under_perm other same').symm
              exact ((carried member).perm moved).congr (kept other)
  | list text announced =>
      cases toldToo with
      | list text' announced' =>
          have spelled := Value.wellSpelled_items (Written.spelled text)
          rw [parse?, Value.parse?_eq_some_iff.mpr text, Option.bind_some] at read
          obtain _ | ⟨payload, _ | ⟨workflows, _ | ⟨id, _ | ⟨number, _ | _⟩⟩⟩⟩ :=
            listed_of_ofValue? spelled read
          refine ⟨announced.count_unique number, ?_⟩
          rw [parse?, Value.parse?_eq_some_iff.mpr text', Option.bind_some]
          refine ofValue?_of_listed (Value.wellSpelled_items (Written.spelled text')) ?_
          exact .cons (payload.congr (kept (by decide))) <|
            .cons (workflows.congr (kept (by decide))) <|
            .cons (id.congr (kept (by decide))) <| .cons announced' .nil

/-- Every body that is read says something, and announces the number that is read. -/
theorem tells_of_parse? {content : Bytes} (read : parse? content = some body) :
    ∃ rest, Tells content rest body.fileCount := by
  obtain ⟨value, written, found⟩ := Option.bind_eq_some_iff.mp read
  have text := Value.parse?_eq_some_iff.mp written
  cases value with
  | object members =>
      obtain ⟨-, carried⟩ := (parse?_object_iff text).mp read
      exact ⟨_, .object text .rfl ((carried .fileCount).congr rfl)⟩
  | array items =>
      have spelled := Value.wellSpelled_items (Written.spelled text)
      obtain _ | ⟨-, _ | ⟨-, _ | ⟨-, _ | ⟨number, _ | _⟩⟩⟩⟩ := listed_of_ofValue? spelled found
      exact ⟨_, .list text number⟩
  | _ => cases found

theorem parse?_alike {a b : Bytes} (alike : AlikeButCount a b) :
    (parse? b).map uncounted = (parse? a).map uncounted := by
  obtain rfl | ⟨rest, count, count', told, toldToo⟩ := alike
  · rfl
  · cases read : parse? a with
    | some body =>
        rw [(parse?_of_tells told toldToo read).2]
        rfl
    | none =>
        cases readToo : parse? b with
        | none => rfl
        | some body =>
            have readFirst := (parse?_of_tells toldToo told readToo).2
            rw [read] at readFirst
            cases readFirst

theorem parse?_none_of_alike {a b : Bytes} (alike : AlikeButCount a b) (unread : parse? a = none) :
    parse? b = none := by
  have same := parse?_alike alike
  rwa [unread, Option.map_none, Option.map_eq_none_iff] at same

end Body

namespace Request

open Body

/-- The request without the number of files. -/
def uncounted (request : Request) : Request :=
  { request with fileCount := none }

theorem ofBody_uncounted (metadataId : Option String) (body : Body) :
    ofBody metadataId body.uncounted = (ofBody metadataId body).map uncounted := by
  rw [ofBody_eq, ofBody_eq]
  simp only [apply_ite (Except.map uncounted)]
  rfl

variable {wording : Bytes → String} {delivery other : Delivery} {request : Request}

theorem ofDelivery_of_unread (unread : Body.parse? delivery.body = none) :
    ofDelivery wording delivery = .error (.malformedBody (wording delivery.body)) := by
  simp only [ofDelivery, unread]

theorem ofDelivery_alike (id : other.correlationId = delivery.correlationId)
    (alike : AlikeButCount delivery.body other.body) (readable : Body.parse? delivery.body ≠ none) :
    (ofDelivery wording other).map uncounted = (ofDelivery wording delivery).map uncounted := by
  have same := parse?_alike alike
  obtain ⟨body, read⟩ := Option.ne_none_iff_exists'.mp readable
  rw [read, Option.map_some] at same
  obtain ⟨body', read', uncountedToo⟩ := Option.map_eq_some_iff.mp same
  unfold ofDelivery
  rw [read, read']
  dsimp only
  rw [← ofBody_uncounted, ← ofBody_uncounted, uncountedToo, id]

theorem exists_body_of_valid (valid : ofDelivery wording delivery = .ok request) :
    ∃ body, Body.parse? delivery.body = some body ∧ request.fileCount = body.fileCount := by
  unfold ofDelivery at valid
  cases read : Body.parse? delivery.body with
  | none =>
      rw [read] at valid
      cases valid
  | some body =>
      rw [read] at valid
      dsimp only at valid
      rw [ofBody_eq] at valid
      split_ifs at valid
      cases Except.ok.inj valid
      exact ⟨body, rfl, rfl⟩

/-- A request has the number of files that the body announces. -/
theorem announces_iff (valid : ofDelivery wording delivery = .ok request) (count : UInt64) :
    Announces delivery.body count ↔ request.fileCount = some count := by
  obtain ⟨body, read, same⟩ := exists_body_of_valid valid
  constructor
  · rintro ⟨rest, told⟩
    exact same.trans (parse?_of_tells told told read).1
  · intro counted
    obtain ⟨rest, told⟩ := tells_of_parse? read
    exact ⟨rest, (same.symm.trans counted) ▸ told⟩

end Request
end Stagehand
