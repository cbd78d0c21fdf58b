import Stagehand.Proofs.Json.Spelling
import Stagehand.Proofs.Json.Value
import Stagehand.Proofs.Request.Count

/-! # What a body gives for each member

A member is given by null, which stands for nothing, or by a value of its type.  The members of an
object are read in any order and under any spelling of their keys, and what is read is the body that
agrees with each member that is given and has nothing for the others.
-/

set_option autoImplicit false

namespace Stagehand

open Json

/-! ## Values in a text keep to their rules -/

namespace Json

theorem Written.spelled {tokens : List Token} {text : Bytes} (written : Written tokens text) :
    ∀ token ∈ tokens, token.Spelled := by
  induction written with
  | nil => exact List.forall_mem_nil _
  | blank _ _ ih => exact ih
  | token spelled _ ih => exact List.forall_mem_cons.mpr ⟨spelled, ih⟩

/-- All numbers and strings in the value keep to their rules. -/
def Value.WellSpelled (value : Value) : Prop :=
  ∀ token ∈ value.tokens, token.Spelled

theorem Value.WellSpelled.quotable {raw : Bytes} (spelled : (Value.text raw).WellSpelled) :
    Quotable raw :=
  spelled (.text raw) (by simp [tokens])

theorem Value.WellSpelled.isNumber {lexeme : Bytes} (spelled : (Value.number lexeme).WellSpelled) :
    Number lexeme :=
  spelled (.number lexeme) (by simp [tokens])

theorem Value.wellSpelled_items {items : List Value} (spelled : (Value.array items).WellSpelled) :
    ∀ item ∈ items, item.WellSpelled := by
  have inside : ∀ token ∈ itemTokens items, token.Spelled := fun token member =>
    spelled token (by simp [tokens, member])
  clear spelled
  induction items with
  | nil => exact List.forall_mem_nil _
  | cons item others ih =>
      rw [itemTokens_cons] at inside
      obtain ⟨first, later⟩ := List.forall_mem_append.mp inside
      refine List.forall_mem_cons.mpr ⟨first, ?_⟩
      cases others with
      | nil => exact List.forall_mem_nil _
      | cons => exact ih (List.forall_mem_cons.mp later).2

theorem Value.wellSpelled_members {members : List (Bytes × Value)}
    (spelled : (Value.object members).WellSpelled) :
    ∀ member ∈ members, Quotable member.1 ∧ member.2.WellSpelled := by
  have inside : ∀ token ∈ memberTokens members, token.Spelled := fun token member =>
    spelled token (by simp [tokens, member])
  clear spelled
  induction members with
  | nil => exact List.forall_mem_nil _
  | cons member others ih =>
      rw [memberTokens_cons] at inside
      obtain ⟨first, later⟩ := List.forall_mem_append.mp inside
      obtain ⟨key, rest⟩ := List.forall_mem_cons.mp first
      refine List.forall_mem_cons.mpr ⟨⟨key, (List.forall_mem_cons.mp rest).2⟩, ?_⟩
      cases others with
      | nil => exact List.forall_mem_nil _
      | cons => exact ih (List.forall_mem_cons.mp later).2

end Json

namespace Body

/-! ## Values of the types of the members -/

/-- The value is a string that says the text. -/
def IsString (value : Value) (text : String) : Prop :=
  ∃ raw, value = .text raw ∧ Spells raw text.toList

/-- The value is an array of strings that say the texts. -/
def IsStrings (value : Value) (texts : List String) : Prop :=
  ∃ items, value = .array items ∧ List.Forall₂ IsString items texts

/-- The value is the number, written as a whole number. -/
def IsCount (value : Value) (count : UInt64) : Prop :=
  value = .number (decimals count.toNat)

/-- Null stands for nothing. -/
inductive Optional {α : Type} (Is : Value → α → Prop) : Value → Option α → Prop where
  | null : Optional Is .null none
  | some {value : Value} {meant : α} : Is value meant → Optional Is value (some meant)

variable {value : Value} {items : List Value}

theorem optionalText?_eq_some_iff (spelled : value.WellSpelled) {found : Option String} :
    optionalText? value = some found ↔ Optional IsString value found := by
  constructor
  · intro read
    cases value with
    | null =>
        cases Option.some.inj read
        exact .null
    | text raw =>
        obtain ⟨text, said, rfl⟩ := Option.map_eq_some_iff.mp read
        exact .some ⟨raw, rfl, (textOf?_eq_some_iff spelled.quotable).mp said⟩
    | _ => cases read
  · rintro (_ | ⟨raw, rfl, spells⟩)
    · rfl
    · rw [optionalText?, (textOf?_eq_some_iff spelled.quotable).mpr spells, Option.map_some]

theorem texts?_eq_some_iff (spelled : ∀ item ∈ items, item.WellSpelled) {texts : List String} :
    texts? items = some texts ↔ List.Forall₂ IsString items texts := by
  induction items generalizing texts with
  | nil => simp [texts?, eq_comm]
  | cons item others ih =>
      obtain ⟨first, later⟩ := List.forall_mem_cons.mp spelled
      constructor
      · intro read
        cases item with
        | text raw =>
            rw [texts?] at read
            split at read
            · rename_i text rest said found
              cases Option.some.inj read
              have spells := (textOf?_eq_some_iff first.quotable).mp said
              exact .cons ⟨raw, rfl, spells⟩ ((ih later).mp found)
            · cases read
        | _ => cases read
      · rintro (_ | ⟨⟨raw, rfl, spells⟩, each⟩)
        rw [texts?, (textOf?_eq_some_iff first.quotable).mpr spells, (ih later).mpr each]

theorem optionalTexts?_eq_some_iff (spelled : value.WellSpelled) {found : Option (List String)} :
    optionalTexts? value = some found ↔ Optional IsStrings value found := by
  constructor
  · intro read
    cases value with
    | null =>
        cases Option.some.inj read
        exact .null
    | array items =>
        obtain ⟨texts, said, rfl⟩ := Option.map_eq_some_iff.mp read
        have each := Value.wellSpelled_items spelled
        exact .some ⟨items, rfl, (texts?_eq_some_iff each).mp said⟩
    | _ => cases read
  · rintro (_ | ⟨items, rfl, each⟩)
    · rfl
    · have inside := Value.wellSpelled_items spelled
      rw [optionalTexts?, (texts?_eq_some_iff inside).mpr each, Option.map_some]

theorem optionalCount?_eq_some_iff (spelled : value.WellSpelled) {found : Option UInt64} :
    optionalCount? value = some found ↔ Optional IsCount value found := by
  constructor
  · intro read
    cases value with
    | null =>
        cases Option.some.inj read
        exact .null
    | number lexeme =>
        simp only [optionalCount?, Bool.and_eq_true, decide_eq_true_eq] at read
        split at read
        · rename_i fits
          cases Option.some.inj read
          have canonical := eq_decimals_of_whole (whole_of_number spelled.isNumber fits.1)
          refine .some (congrArg Value.number ?_)
          rw [Nat.toUInt64, UInt64.toNat_ofNat', Nat.mod_eq_of_lt fits.2]
          exact canonical
        · cases read
    | _ => cases read
  · rintro (_ | ⟨⟨⟩⟩)
    · rfl
    · rename_i count
      obtain ⟨digits, read⟩ := decimals_read count.toNat
      have fits : count.toNat < UInt64.size := count.toNat_lt
      simp [optionalCount?, digits, read, fits]

/-! ## One member -/

def Member.key : Member → String
  | payloadId => "payload_id"
  | workflows => "workflows"
  | correlationId => "correlation_id"
  | fileCount => "file_count"

theorem Member.ofKey?_eq_some_iff {key : String} {member : Member} :
    Member.ofKey? key = some member ↔ key = member.key := by
  unfold Member.ofKey?
  constructor
  · intro found
    split_ifs at found with payload list id count <;> cases Option.some.inj found <;> assumption
  · rintro rfl
    cases member <;> rfl

theorem Member.key_injective {a b : Member} (same : a.key = b.key) : a = b := by
  have first := Member.ofKey?_eq_some_iff.mpr same
  rw [Member.ofKey?_eq_some_iff.mpr (rfl : a.key = a.key)] at first
  exact Option.some.inj first

/-- The value gives the body what it has for the member. -/
def Member.Gives (value : Value) (body : Body) : Member → Prop
  | payloadId => Optional IsString value body.payloadId
  | workflows => Optional IsStrings value body.workflows
  | correlationId => Optional IsString value body.correlationId
  | fileCount => Optional IsCount value body.fileCount

/-- The two bodies have the same for the member. -/
def Member.Same (a b : Body) : Member → Prop
  | payloadId => a.payloadId = b.payloadId
  | workflows => a.workflows = b.workflows
  | correlationId => a.correlationId = b.correlationId
  | fileCount => a.fileCount = b.fileCount

theorem Member.Same.symm {member : Member} {a b : Body} (same : member.Same a b) :
    member.Same b a := by
  cases member <;> exact Eq.symm same

theorem Member.Same.trans {member : Member} {a b c : Body} (first : member.Same a b)
    (second : member.Same b c) : member.Same a c := by
  cases member <;> exact Eq.trans first second

theorem eq_of_same {a b : Body} (same : ∀ member : Member, member.Same a b) : a = b := by
  obtain ⟨payloadId, workflows, correlationId, fileCount⟩ := a
  obtain rfl : payloadId = b.payloadId := same .payloadId
  obtain rfl : workflows = b.workflows := same .workflows
  obtain rfl : correlationId = b.correlationId := same .correlationId
  obtain rfl : fileCount = b.fileCount := same .fileCount
  rfl

theorem Member.Gives.congr {member : Member} {a b : Body} (gives : member.Gives value a)
    (same : member.Same a b) : member.Gives value b := by
  cases member <;> simp only [Member.Gives, Member.Same] at * <;> rwa [← same]

variable {body next final : Body} {member : Member}

/-- Setting a member changes nothing but the member. -/
theorem set?_same (set : body.set? value member = some next) :
    ∀ other ≠ member, other.Same next body := by
  intro other different
  cases member <;> obtain ⟨found, -, rfl⟩ := Option.map_eq_some_iff.mp set <;> cases other <;>
    first | rfl | exact absurd rfl different

theorem gives_of_set? (spelled : value.WellSpelled) (set : body.set? value member = some next) :
    member.Gives value next := by
  cases member <;> obtain ⟨found, read, rfl⟩ := Option.map_eq_some_iff.mp set
  · exact (optionalText?_eq_some_iff spelled).mp read
  · exact (optionalTexts?_eq_some_iff spelled).mp read
  · exact (optionalText?_eq_some_iff spelled).mp read
  · exact (optionalCount?_eq_some_iff spelled).mp read

theorem exists_set?_of_gives (spelled : value.WellSpelled) (gives : member.Gives value final)
    (body : Body) : ∃ next, body.set? value member = some next ∧ member.Same final next := by
  cases member with
  | payloadId =>
      have read := (optionalText?_eq_some_iff spelled).mpr gives
      exact ⟨_, Option.map_eq_some_iff.mpr ⟨_, read, rfl⟩, rfl⟩
  | workflows =>
      have read := (optionalTexts?_eq_some_iff spelled).mpr gives
      exact ⟨_, Option.map_eq_some_iff.mpr ⟨_, read, rfl⟩, rfl⟩
  | correlationId =>
      have read := (optionalText?_eq_some_iff spelled).mpr gives
      exact ⟨_, Option.map_eq_some_iff.mpr ⟨_, read, rfl⟩, rfl⟩
  | fileCount =>
      have read := (optionalCount?_eq_some_iff spelled).mpr gives
      exact ⟨_, Option.map_eq_some_iff.mpr ⟨_, read, rfl⟩, rfl⟩

/-! ## The members of an object -/

/-- The members have these keys, in any spelling, and these values. -/
def Named (members : List (Bytes × Value)) (named : List (String × Value)) : Prop :=
  List.Forall₂ (fun member pair => Spells member.1 pair.1.toList ∧ member.2 = pair.2) members named

/-- The values that stand under the key of the member. -/
def valuesOf (member : Member) (named : List (String × Value)) : List Value :=
  (named.filter fun pair => pair.1 = member.key).map Prod.snd

/-- The body has what the only value gives or, where none stands, what it had before. -/
inductive Carried (member : Member) (before body : Body) : List Value → Prop where
  | absent : member.Same body before → Carried member before body []
  | once {value : Value} : member.Gives value body → Carried member before body [value]

theorem Carried.continued {before : Body} {values : List Value}
    (carried : Carried member before final values) (same : member.Same before next) :
    Carried member next final values := by
  cases carried with
  | absent kept => exact .absent (kept.trans same)
  | once gives => exact .once gives

theorem valuesOf_cons (member : Member) (key : String) (value : Value)
    (named : List (String × Value)) : valuesOf member ((key, value) :: named) =
      if key = member.key then value :: valuesOf member named else valuesOf member named := by
  unfold valuesOf
  split <;> simp [*]

theorem addMembers?_other {raw : Bytes} {key : String} {others : List (Bytes × Value)}
    {seen : List Member} (quotable : Quotable raw) (spells : Spells raw key.toList)
    (other : ∀ member : Member, key ≠ member.key) :
    body.addMembers? seen ((raw, value) :: others) = body.addMembers? seen others := by
  have none : Member.ofKey? key = none := by
    rw [Option.eq_none_iff_forall_ne_some]
    exact fun member found => other member (Member.ofKey?_eq_some_iff.mp found)
  rw [addMembers?, (textOf?_eq_some_iff quotable).mpr spells]
  dsimp only
  rw [none]

theorem addMembers?_member {raw : Bytes} {others : List (Bytes × Value)} {seen : List Member}
    (quotable : Quotable raw) (spells : Spells raw member.key.toList) (unseen : member ∉ seen)
    (set : body.set? value member = some next) :
    body.addMembers? seen ((raw, value) :: others) = next.addMembers? (member :: seen) others := by
  rw [addMembers?, (textOf?_eq_some_iff quotable).mpr spells]
  dsimp only
  rw [Member.ofKey?_eq_some_iff.mpr rfl]
  dsimp only
  rw [if_neg unseen, set]

/-- Where each member is carried at most once, and the ones already seen not again, the object is
read as the body. -/
theorem addMembers?_of_carried {members : List (Bytes × Value)} {named : List (String × Value)}
    {seen : List Member} {before : Body} (names : Named members named)
    (spelled : ∀ member ∈ members, Quotable member.1 ∧ member.2.WellSpelled)
    (fresh : ∀ member ∈ seen, valuesOf member named = [])
    (carried : ∀ member, Carried member before final (valuesOf member named)) :
    before.addMembers? seen members = some final := by
  -- A member that was read counts as absent from the rest, since the body has it by then.
  induction names generalizing seen before with
  | nil =>
      have same : before = final := eq_of_same fun member => by
        cases carried member with
        | absent same => exact same.symm
      rw [same]
      rfl
  | @cons first pair others named head _ ih =>
      obtain ⟨⟨quotable, proper⟩, later⟩ := List.forall_mem_cons.mp spelled
      obtain ⟨raw, value⟩ := first
      obtain ⟨key, meant⟩ := pair
      obtain ⟨spells, rfl⟩ : Spells raw key.toList ∧ value = meant := head
      by_cases known : ∃ member : Member, key = member.key
      · obtain ⟨member, rfl⟩ := known
        have unseen : member ∉ seen := fun known => by
          have none := fresh member known
          rw [valuesOf_cons, if_pos rfl] at none
          cases none
        have given := carried member
        rw [valuesOf_cons, if_pos rfl] at given
        generalize alone : valuesOf member named = rest at given
        cases given with
        | once gives =>
            obtain ⟨next, set, same⟩ := exists_set?_of_gives proper gives before
            rw [addMembers?_member quotable spells unseen set]
            have apart {other : Member} (different : other ≠ member) :
                valuesOf other ((member.key, value) :: named) = valuesOf other named := by
              rw [valuesOf_cons, if_neg fun same => different (Member.key_injective same.symm)]
            refine ih later (List.forall_mem_cons.mpr ⟨alone, fun other known => ?_⟩) fun other => ?_
            · have different : other ≠ member := fun same => unseen (same ▸ known)
              exact apart different ▸ fresh other known
            · by_cases different : other = member
              · subst different
                rw [alone]
                exact .absent same
              · have given := carried other
                rw [apart different] at given
                exact given.continued (set?_same set other different).symm
      · have other (member : Member) : key ≠ member.key := fun same => known ⟨member, same⟩
        have apart (member : Member) :
            valuesOf member ((key, value) :: named) = valuesOf member named := by
          rw [valuesOf_cons, if_neg (other member)]
        rw [addMembers?_other quotable spells other]
        refine ih later (fun member seen => ?_) fun member => ?_
        · exact apart member ▸ fresh member seen
        · exact apart member ▸ carried member

/-! ## A list in place of an object -/

/-- The values are those of the four members in their order. -/
def Listed (items : List Value) (body : Body) : Prop :=
  List.Forall₂ (fun value member => Member.Gives value body member) items
    [.payloadId, .workflows, .correlationId, .fileCount]

theorem listed_of_ofValue? (spelled : ∀ item ∈ items, item.WellSpelled)
    (read : ofValue? (.array items) = some body) : Listed items body := by
  unfold ofValue? at read
  split at read
  case h_1 object => cases object
  case h_3 => cases read
  case h_2 list =>
    cases Value.array.inj list
    obtain ⟨payload, workflows, id, count, -⟩ := by
      simpa only [List.forall_mem_cons] using spelled
    simp only [Option.bind_eq_bind, Option.bind_eq_some_iff] at read
    obtain ⟨withPayload, first, withWorkflows, second, withId, third, last⟩ := read
    -- Each later step keeps what the earlier ones have set.
    have keptId (member : Member) (other : member ≠ .fileCount) : member.Same withId body :=
      (set?_same last member other).symm
    have keptWorkflows (member : Member) (other : member ≠ .correlationId)
        (more : member ≠ .fileCount) : member.Same withWorkflows body :=
      (set?_same third member other).symm.trans (keptId member more)
    have keptPayload : Member.payloadId.Same withPayload body :=
      (set?_same second .payloadId (by decide)).symm.trans
        (keptWorkflows .payloadId (by decide) (by decide))
    exact .cons ((gives_of_set? payload first).congr keptPayload) <|
      .cons ((gives_of_set? workflows second).congr
        (keptWorkflows .workflows (by decide) (by decide))) <|
      .cons ((gives_of_set? id third).congr (keptId .correlationId (by decide))) <|
      .cons (gives_of_set? count last) .nil

theorem ofValue?_of_listed (spelled : ∀ item ∈ items, item.WellSpelled)
    (listed : Listed items body) : ofValue? (.array items) = some body := by
  rcases listed with _ | ⟨payload, _ | ⟨workflows, _ | ⟨id, _ | ⟨count, _ | _⟩⟩⟩⟩
  simp only [List.forall_mem_cons] at spelled
  obtain ⟨spelledPayload, spelledWorkflows, spelledId, spelledCount, -⟩ := spelled
  obtain ⟨withPayload, first, samePayload⟩ := exists_set?_of_gives spelledPayload payload {}
  obtain ⟨withWorkflows, second, sameWorkflows⟩ :=
    exists_set?_of_gives spelledWorkflows workflows withPayload
  obtain ⟨withId, third, sameId⟩ := exists_set?_of_gives spelledId id withWorkflows
  obtain ⟨whole, last, sameCount⟩ := exists_set?_of_gives spelledCount count withId
  have same : whole = body := eq_of_same fun member => by
    cases member with
    | payloadId =>
        exact (set?_same last .payloadId (by decide)).trans <|
          (set?_same third .payloadId (by decide)).trans <|
          (set?_same second .payloadId (by decide)).trans samePayload.symm
    | workflows =>
        exact (set?_same last .workflows (by decide)).trans <|
          (set?_same third .workflows (by decide)).trans sameWorkflows.symm
    | correlationId => exact (set?_same last .correlationId (by decide)).trans sameId.symm
    | fileCount => exact sameCount.symm
  simp only [ofValue?, Option.bind_eq_bind, first, second, third, last, Option.bind_some, same]

end Body
end Stagehand
