import Mathlib.Tactic.SplitIfs
import Stagehand.Staging.Payload
import Stagehand.Store.ChunkReader

/-! # A chunk reader reads one stream of bytes

However the network cuts an object into parts, its bytes are one stream, and each fault stands after a
number of them.  A reader hands out the stream from its front: a call answers with a failure if the
next fault comes before the bytes asked for, and otherwise with as many of them as there are.  What is
kept back or fetched on the way does not show.
-/

set_option autoImplicit false

namespace Stagehand

attribute [ext] Download

def ChunkAnswer.bytes : ChunkAnswer → Bytes
  | .chunk bytes => bytes
  | _ => []

def ChunkAnswer.isFailure : ChunkAnswer → Bool
  | .failed _ => true
  | _ => false

namespace ChunkReader

/-! ## The stream -/

/-- The bytes of all parts in one. -/
def bytesOf : List Part → Bytes
  | [] => []
  | .content bytes :: parts => bytes ++ bytesOf parts
  | .fault _ :: parts => bytesOf parts

/-- The faults among some parts, each with the number of bytes before it, where `offset` bytes came
before the parts. -/
def faultsFrom (offset : Nat) : List Part → List (Nat × RemoteError)
  | [] => []
  | .content bytes :: parts => faultsFrom (offset + bytes.length) parts
  | .fault failure :: parts => (offset, failure) :: faultsFrom offset parts

/-- The bytes that a reader has yet to hand out. -/
def undelivered (reader : ChunkReader) : Bytes :=
  reader.held ++ bytesOf (reader.parts.getD [])

/-- The faults that a reader has yet to report, where `offset` bytes were handed out before. -/
def unreported (reader : ChunkReader) (offset : Nat) : List (Nat × RemoteError) :=
  faultsFrom (offset + reader.held.length) (reader.parts.getD [])

theorem undelivered_ofParts (parts : List Part) : (ofParts parts).undelivered = bytesOf parts := rfl

theorem unreported_ofParts (parts : List Part) :
    (ofParts parts).unreported 0 = faultsFrom 0 parts := rfl

theorem offset_le_of_mem_faultsFrom {parts : List Part} {offset : Nat} {fault : Nat × RemoteError}
    (member : fault ∈ faultsFrom offset parts) : offset ≤ fault.1 := by
  induction parts generalizing offset with
  | nil => cases member
  | cons part others ih =>
      cases part with
      | content bytes =>
          have := ih member
          omega
      | fault failure =>
          rcases List.mem_cons.mp member with rfl | member
          · exact Nat.le_refl _
          · exact ih member

theorem length_bytesOf (parts : List Part) : (bytesOf parts).length = partSizes parts := by
  induction parts with
  | nil => rfl
  | cons part others ih =>
      cases part with
      | content bytes =>
          simp only [bytesOf, List.length_append, ih]
          rfl
      | fault failure =>
          simp only [bytesOf, ih]
          exact (Nat.zero_add _).symm

/-! ## One call -/

/-- Fetching takes bytes off the front of the parts and meets at most one fault: it stops at a fault
before the bytes asked for, or once they are there, or at the end of the parts. -/
theorem gather_cases (missing : Nat) (parts : List Part) (offset : Nat) :
    let gathered := gather missing parts
    let left := gathered.left.getD []
    gathered.bytes ++ bytesOf left = bytesOf parts ∧
      ((∃ failure, gathered.fault = some failure ∧ gathered.bytes.length < missing ∧
          faultsFrom offset parts = (offset + gathered.bytes.length, failure) ::
            faultsFrom (offset + gathered.bytes.length) left) ∨
        (gathered.fault = none ∧
          faultsFrom (offset + gathered.bytes.length) left = faultsFrom offset parts ∧
          (missing ≤ gathered.bytes.length ∨ gathered.left = none))) := by
  fun_induction gather missing parts generalizing offset with
  | case1 parts => exact ⟨rfl, Or.inr ⟨rfl, rfl, Or.inl (Nat.le_refl _)⟩⟩
  | case2 missing => exact ⟨rfl, Or.inr ⟨rfl, rfl, Or.inr rfl⟩⟩
  | case3 missing bytes parts more ih =>
      have fetched : gather (missing + 1 - bytes.length) parts = more := rfl
      rw [fetched] at ih
      obtain ⟨whole, ended⟩ := ih (offset + bytes.length)
      refine ⟨?_, ?_⟩
      · simp only [bytesOf, ← whole, List.append_assoc]
      · simp only [faultsFrom, List.length_append, ← Nat.add_assoc]
        rcases ended with ⟨failure, met, short, faults⟩ | ⟨unmet, faults, enough | spent⟩
        · exact Or.inl ⟨failure, met, by omega, faults⟩
        · exact Or.inr ⟨unmet, faults, Or.inl (by omega)⟩
        · exact Or.inr ⟨unmet, faults, Or.inr spent⟩
  | case4 missing failure parts =>
      exact ⟨rfl, Or.inl ⟨failure, rfl, Nat.succ_pos _, rfl⟩⟩

/-- A reader that was filled for a chunk has the same stream ahead of it, but for a fault that it met
before there were enough bytes. -/
theorem fill_cases (reader : ChunkReader) (size offset : Nat) :
    let filled := (reader.fill size).1
    filled.undelivered = reader.undelivered ∧
      ((∃ failure, (reader.fill size).2 = some failure ∧ filled.held.length < size ∧
          reader.unreported offset =
            (offset + filled.held.length, failure) :: filled.unreported offset) ∨
        ((reader.fill size).2 = none ∧ filled.unreported offset = reader.unreported offset ∧
          (size ≤ filled.held.length ∨ filled.parts = none))) := by
  unfold fill
  cases ahead : reader.parts with
  | none => exact ⟨rfl, Or.inr ⟨rfl, rfl, Or.inr ahead⟩⟩
  | some parts =>
      obtain ⟨whole, ended⟩ :=
        gather_cases (size - reader.held.length) parts (offset + reader.held.length)
      simp only [undelivered, unreported, ahead, Option.getD_some, List.length_append,
        List.append_assoc, ← Nat.add_assoc]
      refine ⟨congrArg (reader.held ++ ·) whole, ?_⟩
      rcases ended with ⟨failure, met, short, faults⟩ | ⟨unmet, faults, enough | spent⟩
      · exact Or.inl ⟨failure, met, by omega, faults⟩
      · exact Or.inr ⟨unmet, faults, Or.inl (by omega)⟩
      · exact Or.inr ⟨unmet, faults, Or.inr spent⟩

/-- What a call comes to, by the bytes and the faults that are left before it, with those that are left
after it. -/
inductive Answered (size offset : Nat) (rest : Bytes) (faults : List (Nat × RemoteError)) :
    ChunkAnswer → Bytes → List (Nat × RemoteError) → Prop
  /-- The next fault comes before the bytes asked for.  Nothing is handed out. -/
  | failed {before : Nat} {failure : RemoteError} {later : List (Nat × RemoteError)}
      (ahead : faults = (before, failure) :: later) (near : before < offset + size) :
      Answered size offset rest faults (.failed (.backend failure.message)) rest later
  | chunk (more : rest ≠ []) (far : ∀ fault ∈ faults, offset + size ≤ fault.1) :
      Answered size offset rest faults (.chunk (rest.take size)) (rest.drop size) faults
  | ended (noBytes : rest = []) (noFaults : faults = []) :
      Answered size offset rest faults .ended rest faults

/-- Handing out bytes of a reader that holds enough of them, or all there are. -/
theorem handOut_of_enough {filled : ChunkReader} {size : Nat}
    (enough : size ≤ filled.held.length ∨ filled.parts = none) (offset : Nat) :
    let later : ChunkReader := { filled with held := filled.held.drop size }
    filled.held.take size = filled.undelivered.take size ∧
      later.undelivered = filled.undelivered.drop size ∧
      later.unreported (offset + (filled.held.take size).length) = filled.unreported offset := by
  have counted : offset + (filled.held.take size).length + (filled.held.drop size).length =
      offset + filled.held.length := by
    rw [Nat.add_assoc, ← List.length_append, List.take_append_drop]
  simp only [undelivered, unreported, counted]
  rcases enough with enough | spent
  · simp [List.take_append_of_le_length enough, List.drop_append_of_le_length enough]
  · simp [spent, bytesOf]

theorem answered_next (reader : ChunkReader) {size : Nat} (positive : 1 ≤ size) (offset : Nat) :
    Answered size offset reader.undelivered (reader.unreported offset) (reader.next size).2
      (reader.next size).1.undelivered
      ((reader.next size).1.unreported (offset + (reader.next size).2.bytes.length)) := by
  obtain ⟨whole, ended⟩ := fill_cases reader size offset
  unfold next
  generalize reader.fill size = filling at whole ended ⊢
  obtain ⟨filled, met⟩ := filling
  dsimp only at whole ended
  rcases ended with ⟨failure, rfl, short, faults⟩ | ⟨rfl, faults, enough⟩
  · dsimp only
    rw [whole]
    exact .failed faults (by omega)
  rw [← whole, ← faults]
  dsimp only
  split_ifs with empty
  · have nothing : filled.held = [] := List.isEmpty_iff.mp empty
    have spent : filled.parts = none := by
      refine enough.resolve_left fun enough => ?_
      rw [nothing, List.length_nil] at enough
      omega
    exact .ended (by simp [undelivered, nothing, spent, bytesOf])
      (by simp [unreported, spent, faultsFrom])
  · have held : filled.held ≠ [] := fun nothing => empty (List.isEmpty_iff.mpr nothing)
    have far : ∀ fault ∈ filled.unreported offset, offset + size ≤ fault.1 := by
      intro fault member
      rcases enough with enough | spent
      · have := offset_le_of_mem_faultsFrom member
        omega
      · rw [unreported, spent] at member
        cases member
    obtain ⟨taken, dropped, same⟩ := handOut_of_enough enough offset
    simp only [ChunkAnswer.bytes, taken, dropped] at same ⊢
    rw [same]
    exact .chunk (by simp [undelivered, held]) far

/-- What the answer to a call has to be, where the bytes `rest` are left of the stream and the faults
`ahead`, after `offset` bytes were handed out. -/
structure Continues (size offset : Nat) (rest : Bytes) (ahead : List (Nat × RemoteError))
    (answer : ChunkAnswer) : Prop where
  failed_iff (reason : StoreError) :
    answer = .failed reason ↔
      ∃ before failure later, ahead = (before, failure) :: later ∧ before < offset + size ∧
        reason = .backend failure.message
  chunk_iff (bytes : Bytes) :
    answer = .chunk bytes ↔
      (∀ fault ∈ ahead, offset + size ≤ fault.1) ∧ rest ≠ [] ∧ bytes = rest.take size
  ended_iff : answer = .ended ↔ ahead = [] ∧ rest = []
  chunk_length (bytes : Bytes) (handed : answer = .chunk bytes) :
    bytes ≠ [] ∧ bytes.length = min size rest.length

theorem Answered.continues {size offset : Nat} {rest left : Bytes}
    {faults later : List (Nat × RemoteError)} {answer : ChunkAnswer} (positive : 1 ≤ size)
    (answered : Answered size offset rest faults answer left later) :
    Continues size offset rest faults answer := by
  cases answered with
  | @failed before failure later ahead near =>
      subst ahead
      have close : ¬ ∀ fault ∈ (before, failure) :: later, offset + size ≤ fault.1 := by
        intro far
        have := far _ List.mem_cons_self
        omega
      refine ⟨fun reason => ?_, fun bytes => ?_, by simp, by simp⟩
      · constructor
        · rintro ⟨⟩
          exact ⟨before, failure, later, rfl, near, rfl⟩
        · rintro ⟨_, _, _, same, -, rfl⟩
          cases same
          rfl
      · simp only [close, false_and, reduceCtorEq]
  | chunk more far =>
      refine ⟨fun reason => ?_, fun bytes => ?_, by simp [more], ?_⟩
      · refine iff_of_false (by simp) ?_
        rintro ⟨before, failure, later, rfl, near, -⟩
        have := far _ List.mem_cons_self
        omega
      · simp only [ChunkAnswer.chunk.injEq, eq_comm (a := bytes)]
        exact ⟨fun same => ⟨far, more, same⟩, fun all => all.2.2⟩
      · rintro bytes ⟨⟩
        refine ⟨?_, List.length_take⟩
        intro nothing
        rcases List.take_eq_nil_iff.mp nothing with zero | none
        · omega
        · exact more none
  | ended noBytes noFaults =>
      subst noBytes noFaults
      exact ⟨by simp, by simp, by simp, by simp⟩

/-! ## A sequence of calls -/

/-- The answers to calls for chunks of some sizes, one after the other. -/
def answers : ChunkReader → List Nat → List ChunkAnswer
  | _, [] => []
  | reader, size :: sizes => (reader.next size).2 :: answers (reader.next size).1 sizes

/-- The reader after calls for chunks of some sizes. -/
def after : ChunkReader → List Nat → ChunkReader
  | reader, [] => reader
  | reader, size :: sizes => after (reader.next size).1 sizes

/-- The bytes that were handed out with some answers. -/
def delivered (given : List ChunkAnswer) : Bytes :=
  given.flatMap ChunkAnswer.bytes

/-- The number of faults that were reported with some answers. -/
def reported (given : List ChunkAnswer) : Nat :=
  given.countP ChunkAnswer.isFailure

theorem answers_append (reader : ChunkReader) (front back : List Nat) :
    reader.answers (front ++ back) = reader.answers front ++ (reader.after front).answers back := by
  induction front generalizing reader with
  | nil => rfl
  | cons size front ih => exact congrArg ((reader.next size).2 :: ·) (ih _)

theorem Answered.delivers {size offset : Nat} {rest left : Bytes}
    {faults later : List (Nat × RemoteError)} {answer : ChunkAnswer}
    (answered : Answered size offset rest faults answer left later) :
    answer.bytes ++ left = rest ∧ later = faults.drop (if answer.isFailure then 1 else 0) := by
  cases answered with
  | failed ahead near =>
      subst ahead
      exact ⟨rfl, rfl⟩
  | chunk more far => exact ⟨List.take_append_drop size rest, rfl⟩
  | ended noBytes noFaults => exact ⟨rfl, rfl⟩

/-- Calls take the stream from its front, byte by byte and fault by fault. -/
theorem after_run (reader : ChunkReader) (sizes : List Nat)
    (positive : ∀ size ∈ sizes, 1 ≤ size) (offset : Nat) :
    let given := reader.answers sizes
    delivered given ++ (reader.after sizes).undelivered = reader.undelivered ∧
      (reader.after sizes).unreported (offset + (delivered given).length) =
        (reader.unreported offset).drop (reported given) := by
  induction sizes generalizing reader offset with
  | nil => exact ⟨rfl, rfl⟩
  | cons size sizes ih =>
      obtain ⟨front, told⟩ :=
        (answered_next reader (positive size List.mem_cons_self) offset).delivers
      obtain ⟨handed, later⟩ := ih (reader.next size).1
        (fun other member => positive other (List.mem_cons_of_mem _ member))
        (offset + (reader.next size).2.bytes.length)
      simp only [answers, after, delivered, reported, List.flatMap_cons, List.length_append,
        List.append_assoc, List.countP_cons, ← Nat.add_assoc] at handed later ⊢
      rw [handed, later, told, List.drop_drop, Nat.add_comm]
      exact ⟨front, rfl⟩

/-! ## Without faults -/

theorem next_of_faultless {reader : ChunkReader} {size offset : Nat} (positive : 1 ≤ size)
    (noFaults : reader.unreported offset = []) :
    (reader.next size).1.unreported (offset + (reader.next size).2.bytes.length) = [] ∧
      (reader.next size).1.undelivered = reader.undelivered.drop size ∧
      (reader.next size).2 =
        if reader.undelivered = [] then .ended else .chunk (reader.undelivered.take size) := by
  have answered := answered_next reader positive offset
  rw [noFaults] at answered
  generalize (reader.next size).1.unreported _ = later at answered ⊢
  generalize (reader.next size).1.undelivered = left at answered ⊢
  generalize (reader.next size).2 = answer at answered ⊢
  cases answered with
  | failed ahead near => cases ahead
  | chunk more far => exact ⟨rfl, rfl, (if_neg more).symm⟩
  | ended noBytes noFaults => exact ⟨rfl, by simp [noBytes], (if_pos noBytes).symm⟩

/-- A reader with nothing left answers every call in the same way. -/
theorem answers_of_spent {reader : ChunkReader} {offset : Nat} (noBytes : reader.undelivered = [])
    (noFaults : reader.unreported offset = []) (sizes : List Nat)
    (positive : ∀ size ∈ sizes, 1 ≤ size) : ∀ answer ∈ reader.answers sizes, answer = .ended := by
  induction sizes generalizing reader offset with
  | nil =>
      intro answer member
      cases member
  | cons size sizes ih =>
      obtain ⟨told, spent, ended⟩ := next_of_faultless (positive size List.mem_cons_self) noFaults
      rw [noBytes, List.drop_nil] at spent
      rw [if_pos noBytes] at ended
      intro answer member
      rcases List.mem_cons.mp member with rfl | member
      · exact ended
      · exact ih spent told (fun other among => positive other (List.mem_cons_of_mem _ among))
          answer member

/-! ## Reading to the end -/

/-- Bytes cut into pieces of a size, of which only the last may be shorter, and none is empty. -/
inductive Cut (size : Nat) : Bytes → List Bytes → Prop
  | nothing : Cut size [] []
  | piece {rest : Bytes} {pieces : List Bytes} (more : rest ≠ [])
      (others : Cut size (rest.drop size) pieces) : Cut size rest (rest.take size :: pieces)

variable {size : Nat} {rest : Bytes} {pieces others : List Bytes}

theorem Cut.unique (first : Cut size rest pieces) (second : Cut size rest others) :
    pieces = others := by
  induction first generalizing others with
  | nothing =>
      cases second with
      | nothing => rfl
      | piece more => exact absurd rfl more
  | piece more _ ih =>
      cases second with
      | nothing => exact absurd rfl more
      | piece _ later => rw [ih later]

theorem Cut.flatten (cut : Cut size rest pieces) : pieces.flatten = rest := by
  induction cut with
  | nothing => rfl
  | @piece rest pieces more others ih =>
      rw [List.flatten_cons, ih, List.take_append_drop]

theorem Cut.bounded (cut : Cut size rest pieces) (positive : 1 ≤ size) :
    ∀ piece ∈ pieces, piece ≠ [] ∧ piece.length ≤ size := by
  induction cut with
  | nothing =>
      intro piece member
      cases member
  | @piece rest pieces more others ih =>
      intro piece member
      rcases List.mem_cons.mp member with rfl | member
      · refine ⟨?_, List.length_take_le size rest⟩
        intro nothing
        rcases List.take_eq_nil_iff.mp nothing with zero | none
        · omega
        · exact more none
      · exact ih piece member

/-- A piece that others come after is a full one. -/
theorem Cut.full (cut : Cut size rest pieces) :
    ∀ piece ∈ pieces.dropLast, piece.length = size := by
  induction cut with
  | nothing =>
      intro piece member
      cases member
  | @piece rest pieces more others ih =>
      intro piece member
      cases pieces with
      | nil => cases member
      | cons next later =>
          rw [List.dropLast_cons_cons] at member
          rcases List.mem_cons.mp member with rfl | member
          · rw [List.length_take, Nat.min_eq_left]
            refine Nat.le_of_not_lt fun short => ?_
            rw [List.drop_eq_nil_of_le (Nat.le_of_lt short)] at others
            cases others with
            | piece more => exact more rfl
          · exact ih piece member

theorem readUpTo_of_faultless (positive : 1 ≤ size) (bound : Nat) {reader : ChunkReader}
    {offset : Nat} (noFaults : reader.unreported offset = [])
    (enough : reader.undelivered.length < bound) :
    (readUpTo size bound reader).fault = none ∧
      Cut size reader.undelivered (readUpTo size bound reader).chunks := by
  induction bound generalizing reader offset with
  | zero => omega
  | succ bound ih =>
      obtain ⟨told, left, answered⟩ := next_of_faultless positive noFaults
      unfold readUpTo
      generalize reader.next size = step at told left answered ⊢
      obtain ⟨later, answer⟩ := step
      dsimp only at told left answered
      split_ifs at answered with noBytes
      · subst answered
        rw [noBytes]
        exact ⟨rfl, .nothing⟩
      · subst answered
        have shorter : later.undelivered.length < bound := by
          have some_ := List.length_pos_iff.mpr noBytes
          rw [left, List.length_drop]
          omega
        obtain ⟨whole, cut⟩ := ih told shorter
        rw [left] at cut
        exact ⟨whole, .piece noBytes cut⟩

theorem download_of_faultless {parts : List Part} (noFaults : faultsFrom 0 parts = [])
    (positive : 1 ≤ size) :
    ((ofParts parts).download size).fault = none ∧
      Cut size (bytesOf parts) ((ofParts parts).download size).chunks := by
  refine readUpTo_of_faultless positive _ noFaults ?_
  rw [undelivered_ofParts, length_bytesOf]
  exact Nat.lt_succ_of_le (Nat.le_add_left _ _)

/-- A reader hands out the bytes of its parts as one stream.  Every call in a sequence of calls for
chunks continues where those before it stopped, and reports each fault once; when everything was
handed out, or the reader was released, there is nothing more.  An object without faults is therefore
read in full chunks but for the last, which is not empty, however the network cut it. -/
theorem reads_one_stream (parts : List Part) (sizes : List Nat)
    (positive : ∀ size ∈ sizes, 1 ≤ size) :
    (∀ front size back, sizes = front ++ size :: back →
      let reader := (ofParts parts).after front
      let given := (ofParts parts).answers front
      let offset := (delivered given).length
      let rest := (bytesOf parts).drop offset
      let answer := (reader.next size).2
      let later := (reader.next size).1.answers back
      (ofParts parts).answers sizes = given ++ answer :: later ∧
        delivered given ++ rest = bytesOf parts ∧
        Continues size offset rest ((faultsFrom 0 parts).drop (reported given)) answer ∧
        (answer = .ended → ∀ other ∈ later, other = .ended) ∧
        ∀ other ∈ reader.release.answers back, other = .ended) ∧
      (faultsFrom 0 parts = [] →
        let download := (ofParts parts).download Staging.chunkSize
        download.fault = none ∧ download.content = bytesOf parts ∧
          (∀ chunk ∈ download.chunks.dropLast, chunk.length = Staging.chunkSize) ∧
          (∀ chunk ∈ download.chunks, chunk ≠ [] ∧ chunk.length ≤ Staging.chunkSize) ∧
          ∀ others, faultsFrom 0 others = [] → bytesOf others = bytesOf parts →
            (ofParts others).download Staging.chunkSize = download) := by
  constructor
  · rintro front size back rfl
    have positiveFront := fun other member => positive other (List.mem_append_left _ member)
    have positiveSize := positive size (by simp)
    have positiveBack : ∀ other ∈ back, 1 ≤ other := fun other member =>
      positive other (by simp [member])
    obtain ⟨handed, told⟩ := after_run (ofParts parts) front positiveFront 0
    rw [undelivered_ofParts] at handed
    rw [Nat.zero_add, unreported_ofParts] at told
    dsimp only
    have left : (bytesOf parts).drop (delivered ((ofParts parts).answers front)).length =
        ((ofParts parts).after front).undelivered := by
      rw [← handed, List.drop_left]
    rw [left, ← told]
    have continues := (answered_next ((ofParts parts).after front) positiveSize
      (delivered ((ofParts parts).answers front)).length).continues positiveSize
    refine ⟨?_, handed, continues, ?_, ?_⟩
    · rw [answers_append]
      rfl
    · intro ended other member
      obtain ⟨noFaults, noBytes⟩ := continues.ended_iff.mp ended
      exact answers_of_spent noBytes noFaults (size :: back)
        (fun other among => positive other (List.mem_append_right _ among)) other
        (List.mem_cons_of_mem _ member)
    · have silent : ((ofParts parts).after front).release.unreported 0 = [] := rfl
      exact answers_of_spent rfl silent back positiveBack
  · intro noFaults
    have positiveChunk : 1 ≤ Staging.chunkSize := by decide
    obtain ⟨sound, cut⟩ := download_of_faultless noFaults positiveChunk
    refine ⟨sound, cut.flatten, cut.full, cut.bounded positiveChunk, ?_⟩
    intro others noOthers same
    obtain ⟨soundOther, cutOther⟩ := download_of_faultless noOthers positiveChunk
    rw [same] at cutOther
    exact Download.ext (cutOther.unique cut) (soundOther.trans sound.symm)

/-- A call meets a fault one byte short of what it asks for; the byte before the fault is the first of
the next chunk. -/
theorem reads_one_stream_past_fault :
    let fault : RemoteError := .generic "reset"
    let parts : List Part := [.content [1, 2], .content [], .fault fault, .content [3, 4, 5]]
    let given : List ChunkAnswer := [.chunk [1], .failed (.backend fault.message)]
    (∀ size ∈ [1, 2, 3, 3, 1], 1 ≤ size) ∧
      (ofParts parts).answers [1, 2, 3, 3, 1] =
        given ++ [.chunk [2, 3, 4], .chunk [5], .ended] ∧
      Continues 3 1 [2, 3, 4, 5] [] (.chunk [2, 3, 4]) := by
  intro fault parts given
  have positive : ∀ size ∈ [1, 2, 3, 3, 1], 1 ≤ size := by decide
  obtain ⟨said, -, continues, -⟩ :=
    (reads_one_stream parts [1, 2, 3, 3, 1] positive).1 [1, 2] 3 [3, 1] rfl
  have first : (ofParts parts).answers [1, 2] = given := by decide
  have next : ((ofParts parts).after [1, 2]).next 3 = (⟨[5], some []⟩, .chunk [2, 3, 4]) := by
    decide
  have last : ChunkReader.answers ⟨[5], some []⟩ [3, 1] = [.chunk [5], .ended] := by decide
  rw [first, next, last] at said
  rw [first, next] at continues
  exact ⟨positive, said, continues⟩

end ChunkReader
end Stagehand
