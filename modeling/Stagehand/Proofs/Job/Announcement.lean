import Stagehand.Proofs.Job.Clock
import Stagehand.Proofs.Job.Log
import Stagehand.Proofs.Job.Refusal
import Stagehand.Proofs.Request.Announcement
import Stagehand.Rehearsal.Dispatcher
import Stagehand.Rehearsal.Engine

/-! # What a job does not depend on

The number of files that a body announces is only compared with what was listed, and the metadata
beside the id is only logged.  Two jobs that differ in these alone are the same job but for the time
they take; their logs differ in the arrival and in what is told of the comparison.  If the body cannot
be read, both are rejected, each in what the parser says of its own body.
-/

set_option autoImplicit false

namespace Stagehand

variable {state : Type}

/-! ## Journals but for the comparison -/

/-- The message tells that another number of files was announced than listed. -/
def Entry.isMismatch : Entry → Bool
  | .event message _ => message.kind = .mismatch
  | _ => false

/-- The journal without the comparison of the announced number with the listed one. -/
def withoutMismatches (entries : List Entry) : List Entry :=
  entries.filter fun entry => !entry.isMismatch

@[simp] theorem withoutMismatches_append (first second : List Entry) :
    withoutMismatches (first ++ second) = withoutMismatches first ++ withoutMismatches second :=
  List.filter_append ..

theorem withoutMismatches_inSpan (span : Span) (entries : List Entry) :
    withoutMismatches (inSpan span entries) = inSpan span (withoutMismatches entries) := by
  have within (entry : Entry) : (entry.within span).isMismatch = entry.isMismatch := by
    cases entry <;> rfl
  simp only [withoutMismatches, inSpan, List.filter_cons, List.filter_map, Function.comp_def,
    within]
  rfl

theorem calls_withoutMismatches (entries : List Entry) :
    calls (withoutMismatches entries) = calls entries := by
  simp only [calls, withoutMismatches, List.filterMap_filter]
  congr 1
  funext entry
  cases entry <;> simp [Entry.isMismatch, Entry.call?]

theorem untimed_withoutMismatches (entries : List Entry) :
    (withoutMismatches entries).map Entry.untimed = withoutMismatches (entries.map Entry.untimed) := by
  have kept (entry : Entry) : entry.untimed.isMismatch = entry.isMismatch := by
    cases entry with
    | event message _ => cases message <;> rfl
    | call | opened => rfl
  simp only [withoutMismatches, List.filter_map, Function.comp_def, kept]

/-- The work with such a journal. -/
def Activity.plain {failure result : Type} (work : Activity failure result) :
    Activity failure result :=
  { work with journal := withoutMismatches work.journal }

def BenchWork.plain {result : Type} (work : BenchWork state result) : BenchWork state result :=
  { work with journal := withoutMismatches work.journal }

namespace Dispatcher

variable {dispatcher : Dispatcher state} {conditions : Conditions} {tree : FileTree}
  {request : Request} {workspace : Workspace} {summary : StagingSummary}
  {delivery other : Delivery}

theorem withoutMismatches_fileCountEntries (request : Request) (summary : StagingSummary) :
    withoutMismatches (fileCountEntries request summary) = [] := by
  unfold fileCountEntries
  split
  · rfl
  · split <;> rfl

/-- The announced number makes no difference to the preparation. -/
theorem prepare_uncounted (dispatcher : Dispatcher state) (conditions : Conditions)
    (request : Request) (tree : FileTree) :
    (dispatcher.prepare conditions request.uncounted tree).plain =
      (dispatcher.prepare conditions request tree).plain := by
  -- Neither stage before the comparison reads the number.
  have sameWay : dispatcher.readyWorkspace request.uncounted tree =
      dispatcher.readyWorkspace request tree := rfl
  have sameStaging : dispatcher.stagedPayload conditions request.uncounted =
      dispatcher.stagedPayload conditions request := rfl
  cases readying : (dispatcher.readyWorkspace request tree).outcome with
  | error failure =>
      rw [prepare_of_unready readying, prepare_of_unready (sameWay ▸ readying), sameWay]
  | ok workspace =>
      rw [prepare_of_ready readying, prepare_of_ready (sameWay ▸ readying), sameWay, sameStaging]
      cases staging : (dispatcher.stagedPayload conditions request workspace
          (dispatcher.readyWorkspace request tree).tree).outcome with
      | error reason => rw [Activity.andThen_of_error _ staging, Activity.andThen_of_error _ staging]
      | ok summary =>
          rw [Activity.andThen_of_ok _ staging, Activity.andThen_of_ok _ staging]
          simp [Activity.plain, Activity.after, withoutMismatches_fileCountEntries]

theorem carryOut_uncounted (dispatcher : Dispatcher state) (conditions : Conditions)
    (bench : Bench state) (request : Request) :
    (dispatcher.carryOut conditions bench request.uncounted).plain =
      (dispatcher.carryOut conditions bench request).plain := by
  have same := dispatcher.prepare_uncounted conditions request bench.tree
  have tree := congrArg Activity.tree same
  have journal := congrArg Activity.journal same
  have outcome := congrArg Activity.outcome same
  dsimp only [Activity.plain] at tree journal outcome
  cases preparation : (dispatcher.prepare conditions request bench.tree).outcome with
  | error reason =>
      rw [carryOut_of_unprepared preparation, carryOut_of_unprepared (outcome.trans preparation)]
      simp only [BenchWork.plain, withoutMismatches_append, tree, journal]
      rfl
  | ok workspace =>
      rw [carryOut_of_prepared preparation, carryOut_of_prepared (outcome.trans preparation)]
      simp only [BenchWork.plain, withoutMismatches_append, tree, journal]
      rfl

/-- A delivery is processed as its request without the announced number says. -/
theorem plain_process (dispatcher : Dispatcher state) (conditions : Conditions)
    (bench : Bench state) (delivery : Delivery) :
    (dispatcher.process conditions bench delivery).plain =
      match (Request.ofDelivery dispatcher.wording delivery).map Request.uncounted with
      | .error reason =>
          ⟨bench, [.log (.deliveryRejected delivery.tag reason.message)],
            (delivery.correlationId, .rejected reason)⟩
      | .ok request =>
          let work := (dispatcher.carryOut conditions bench request).plain
          ⟨work.bench, work.journal, (some request.correlationId, work.result)⟩ := by
  cases validation : Request.ofDelivery dispatcher.wording delivery with
  | error reason =>
      rw [process_of_rejected bench validation]
      rfl
  | ok request =>
      rw [process_of_request bench validation]
      dsimp only [Except.map]
      rw [carryOut_uncounted]
      -- The job as a whole stands still here: nothing of it has to be opened.
      generalize dispatcher.carryOut conditions bench request = work
      rfl

/-! ## When the comparison is told -/

theorem HasStaged.objectCount
    (staged : dispatcher.HasStaged conditions tree delivery request workspace summary) :
    ∃ objects, dispatcher.store.list dispatcher.settings.bucket request.payloadId = .ok objects ∧
      summary.objectCount = Staging.countedObjects dispatcher.settings.ignoreManifests objects := by
  obtain ⟨objects, listed, reported, skipped⟩ := staged.listed
  refine ⟨objects, listed, ?_⟩
  rw [StagingSummary.objectCount, reported, skipped, List.length_map, Staging.length_stagedKeys_add]

theorem length_fileCountEntries_le (request : Request) (summary : StagingSummary) :
    (messages (fileCountEntries request summary)).length ≤ 1 := by
  unfold fileCountEntries
  split
  · exact Nat.zero_le _
  · split <;> simp

/-- The comparison is told after a staging only. -/
theorem JobLog.mismatches {outcome : JobOutcome} {during : List Message}
    (log : JobLog dispatcher conditions tree delivery outcome during) :
    (during.filter (·.kind = .mismatch) = [] ∧
        ∀ request workspace summary,
          ¬ dispatcher.HasStaged conditions tree delivery request workspace summary) ∨
      ∃ request workspace summary,
        dispatcher.HasStaged conditions tree delivery request workspace summary ∧
          during.filter (·.kind = .mismatch) = messages (fileCountEntries request summary) := by
  cases log with
  | rejected reason invalid =>
      refine Or.inl ⟨rfl, fun request workspace summary staged => ?_⟩
      rw [staged.valid] at invalid
      cases invalid
  | unprepared request reason early downloads skips valid failed told =>
      refine Or.inl ⟨?_, fun request' workspace summary staged => ?_⟩
      · rw [List.filter_append, told.filter_kind (by decide)]
        rfl
      · cases Except.ok.inj (staged.valid.symm.trans valid)
        rw [staged.prepared] at failed
        cases failed
  | executed request workspace summary early invocations staged told =>
      refine Or.inr ⟨request, workspace, summary, staged, ?_⟩
      have kept : (messages (fileCountEntries request summary)).filter (·.kind = .mismatch) =
          messages (fileCountEntries request summary) :=
        List.filter_eq_self.mpr fun message member => by
          simpa using kind_of_mem_fileCountEntries member
      have launched : (invocations.flatMap Invocation.log).filter (·.kind = .mismatch) = [] :=
        List.filter_eq_nil_iff.mpr fun message member => by
          rcases Invocation.kind_of_mem_logs member with kind | kind <;> simp [kind]
      rw [filter_staged told (by decide), List.filter_append, kept, launched, List.append_nil]

theorem mismatches_handle (dispatcher : Dispatcher state) (conditions : Conditions)
    (bench : Bench state) (delivery : Delivery) :
    let log := messages (dispatcher.handle conditions bench delivery).journal
    (log.filter (·.kind = .mismatch) = [] ∧
        ∀ request workspace summary,
          ¬ dispatcher.HasStaged conditions bench.tree delivery request workspace summary) ∨
      ∃ request workspace summary,
        dispatcher.HasStaged conditions bench.tree delivery request workspace summary ∧
          log.filter (·.kind = .mismatch) = messages (fileCountEntries request summary) := by
  obtain ⟨answer, told, whole⟩ := messages_handle dispatcher conditions bench delivery
  intro log
  rw [filter_log told whole (by decide)]
  exact (jobLog_process dispatcher conditions bench delivery).mismatches

/-- What is told of the comparison: the announced number and the counted one, exactly if the body
announces a number, the payload was staged, and the numbers are not the same. -/
structure MismatchTold (dispatcher : Dispatcher state) (conditions : Conditions) (tree : FileTree)
    (delivery : Delivery) (log : List Message) : Prop where
  once : log.countP (·.kind = .mismatch) ≤ 1
  told : ∀ message, message ∈ log ∧ message.kind = .mismatch ↔
    ∃ count request workspace summary objects, Body.Announces delivery.body count ∧
      dispatcher.HasStaged conditions tree delivery request workspace summary ∧
      dispatcher.store.list dispatcher.settings.bucket request.payloadId = .ok objects ∧
      count.toNat ≠ Staging.countedObjects dispatcher.settings.ignoreManifests objects ∧
      message = .fileCountMismatch request.payloadId count.toNat
        (Staging.countedObjects dispatcher.settings.ignoreManifests objects)

theorem mismatchTold_handle (dispatcher : Dispatcher state) (conditions : Conditions)
    (bench : Bench state) (delivery : Delivery) :
    dispatcher.MismatchTold conditions bench.tree delivery
      (messages (dispatcher.handle conditions bench delivery).journal) := by
  have course := dispatcher.mismatches_handle conditions bench delivery
  constructor
  · rw [List.countP_eq_length_filter]
    obtain ⟨none, -⟩ | ⟨request, workspace, summary, -, compared⟩ := course
    · exact none ▸ Nat.zero_le _
    · exact compared ▸ length_fileCountEntries_le request summary
  · intro message
    have member : message ∈ messages (dispatcher.handle conditions bench delivery).journal ∧
        message.kind = .mismatch ↔
          message ∈ (messages (dispatcher.handle conditions bench delivery).journal).filter
            (·.kind = .mismatch) := by
      rw [List.mem_filter, decide_eq_true_iff]
    rw [member]
    obtain ⟨none, unstaged⟩ | ⟨request, workspace, summary, staged, compared⟩ := course
    · rw [none]
      refine ⟨fun impossible => absurd impossible List.not_mem_nil, ?_⟩
      rintro ⟨count, request, workspace, summary, objects, -, staged, -⟩
      exact absurd staged (unstaged request workspace summary)
    · obtain ⟨objects, listed, counted⟩ := staged.objectCount
      rw [compared, mem_fileCountEntries, counted]
      constructor
      · rintro ⟨count, given, differs, rfl⟩
        exact ⟨count, request, workspace, summary, objects,
          (Request.announces_iff staged.valid count).mpr given, staged, listed, differs, rfl⟩
      · rintro ⟨count, request', workspace', summary', objects', announced, again, listed', differs,
          rfl⟩
        obtain ⟨rfl, rfl, rfl⟩ := staged.unique again
        cases Except.ok.inj (listed.symm.trans listed')
        exact ⟨count, (Request.announces_iff staged.valid count).mp announced, differs, rfl⟩

/-! ## Two jobs that differ in these alone -/

/-- The span of a job knows the tag and the id of its delivery, and nothing else. -/
theorem span_arrival (tag : other.tag = delivery.tag)
    (id : other.correlationId = delivery.correlationId) :
    (arrival other).span "handle" = (arrival delivery).span "handle" := by
  simp [arrival, Message.span, Message.work, Message.level, Message.fields, Message.spanFields, tag,
    id]

/-- Two jobs that were rejected because their bodies cannot be read, each in the words for its own body,
and that are the same otherwise but for the times. -/
structure DifferInWords (words words' : String) (report report' : JobReport)
    (log log' : List Entry) : Prop where
  rejected : report.outcome = .rejected (.malformedBody words)
  reports : report'.untimed = { report.untimed with outcome := .rejected (.malformedBody words') }
  logs : ∃ span rest,
    log.map Entry.untimed = inSpan span
      (.log (.deliveryRejected report.tag (Rejection.malformedBody words).message) :: rest) ∧
    log'.map Entry.untimed = inSpan span
      (.log (.deliveryRejected report.tag (Rejection.malformedBody words').message) :: rest)

/-- The report and the log of a rejected job, but for the times. -/
theorem untimed_of_rejected (bench : Bench state) {reason : Rejection}
    (invalid : Request.ofDelivery dispatcher.wording delivery = .error reason) :
    let work := dispatcher.handle conditions bench delivery
    let answered := acknowledgeOnce conditions.acknowledgment delivery.tag
    let report : JobReport :=
      ⟨delivery.tag, delivery.correlationId, .rejected reason, answered.1, .zero⟩
    work.result.untimed = report ∧
      work.journal.tail.map Entry.untimed = inSpan ((arrival delivery).span "handle")
        (.log (.deliveryRejected delivery.tag reason.message) ::
          (answered.2.map Entry.untimed ++ [.log (closing report)])) := by
  simp only [handle, process_of_rejected bench invalid, List.tail_cons, untimed_inSpan,
    List.map_append]
  exact ⟨rfl, rfl⟩

section

variable (tag : other.tag = delivery.tag) (id : other.correlationId = delivery.correlationId)
  (alike : Body.AlikeButCount delivery.body other.body)

include tag id alike

/-- Bodies that can be read make the same job. -/
theorem handle_alike_of_read (bench : Bench state)
    (readable : Body.parse? delivery.body ≠ none) :
    let work := dispatcher.handle conditions bench delivery
    let work' := dispatcher.handle conditions bench other
    work'.bench = work.bench ∧ calls work'.journal = calls work.journal ∧
      work'.result = work.result ∧
      withoutMismatches work'.journal.tail = withoutMismatches work.journal.tail := by
  have processed : (dispatcher.process conditions bench other).plain =
      (dispatcher.process conditions bench delivery).plain := by
    rw [plain_process, plain_process, Request.ofDelivery_alike id alike readable, tag, id]
  have left := congrArg BenchWork.bench processed
  have journal := congrArg BenchWork.journal processed
  have result := congrArg BenchWork.result processed
  dsimp only [BenchWork.plain] at left journal result
  have later : withoutMismatches (dispatcher.handle conditions bench other).journal.tail =
      withoutMismatches (dispatcher.handle conditions bench delivery).journal.tail := by
    simp only [handle, List.tail_cons, withoutMismatches_inSpan, withoutMismatches_append, journal,
      span_arrival tag id, tag, result]
  have asked := congrArg calls later
  rw [calls_withoutMismatches, calls_withoutMismatches] at asked
  exact ⟨left, asked, by simp only [handle, tag, result], later⟩

/-- Bodies that cannot be read are both rejected, and nothing else is done. -/
theorem handle_alike_of_unread (bench : Bench state)
    (unread : Body.parse? delivery.body = none) :
    let work := dispatcher.handle conditions bench delivery
    let work' := dispatcher.handle conditions bench other
    work'.bench = work.bench ∧ calls work'.journal = calls work.journal ∧
      DifferInWords (dispatcher.wording delivery.body) (dispatcher.wording other.body) work.result
        work'.result work.journal.tail work'.journal.tail := by
  have invalid := @Request.ofDelivery_of_unread dispatcher.wording delivery unread
  have invalidToo := @Request.ofDelivery_of_unread dispatcher.wording other
    (Body.parse?_none_of_alike alike unread)
  obtain ⟨rejected, still, asked⟩ := handle_of_rejected dispatcher conditions bench invalid
  obtain ⟨-, stillToo, askedToo⟩ := handle_of_rejected dispatcher conditions bench invalidToo
  obtain ⟨report, log⟩ := @untimed_of_rejected _ dispatcher conditions _ bench _ invalid
  obtain ⟨report', log'⟩ := @untimed_of_rejected _ dispatcher conditions _ bench _ invalidToo
  rw [span_arrival tag id, tag, id] at log'
  rw [tag, id] at report'
  rw [tag] at askedToo
  refine ⟨stillToo.trans still.symm, askedToo.trans asked.symm, rejected, ?_, _, _, log, log'⟩
  rw [report', report]

end

/-- A job does not depend on the number that its body announces, on the application id or on the
routing key.  Deliveries that differ in these alone cost the same calls and leave the same bench, the
tree with it, whatever the collaborators are and whatever time either takes.  If the body can be read,
they come to the same report, and after the arrival the same is logged, but for the times and for the
comparison of the numbers, which is told of each by its own number.  If it cannot be read, both are
rejected in what the parser says of their own bodies, and all else is the same. -/
theorem handle_ignores_advice (dispatcher : Dispatcher state) (conditions : Conditions)
    (stopwatch : Stopwatch) (bench : Bench state) {delivery other : Delivery}
    (tag : other.tag = delivery.tag) (id : other.correlationId = delivery.correlationId)
    (alike : Body.AlikeButCount delivery.body other.body) :
    let work := dispatcher.handle conditions bench delivery
    let work' := dispatcher.handle { conditions with stopwatch := stopwatch } bench other
    calls work'.journal = calls work.journal ∧ work'.bench = work.bench ∧
      (∃ later later', work.journal = .log (arrival delivery) :: later ∧
        work'.journal = .log (arrival other) :: later' ∧
        (Body.parse? delivery.body ≠ none →
          work'.result.untimed = work.result.untimed ∧
            (withoutMismatches later').map Entry.untimed =
              (withoutMismatches later).map Entry.untimed) ∧
        (Body.parse? delivery.body = none →
          DifferInWords (dispatcher.wording delivery.body) (dispatcher.wording other.body)
            work.result work'.result later later')) ∧
      dispatcher.MismatchTold conditions bench.tree delivery (messages work.journal) ∧
      dispatcher.MismatchTold { conditions with stopwatch := stopwatch } bench.tree other
        (messages work'.journal) := by
  intro work work'
  have retimed := dispatcher.untimed_handle conditions stopwatch bench other
  simp only [BenchWork.untimed, BenchWork.mk.injEq] at retimed
  obtain ⟨left, told, report⟩ := retimed
  have made := congrArg calls told
  rw [calls_untimed, calls_untimed] at made
  have later : work'.journal.tail.map Entry.untimed =
      (dispatcher.handle conditions bench other).journal.tail.map Entry.untimed := by
    simpa only [List.map_tail] using congrArg List.tail told
  by_cases read : Body.parse? delivery.body = none
  · obtain ⟨same, asked, rejected, reports, span, rest, log, log'⟩ :=
      @handle_alike_of_unread state dispatcher conditions delivery other tag id alike bench read
    exact ⟨made.trans asked, left.trans same,
      ⟨_, _, rfl, rfl, fun readable => absurd read readable, fun _ =>
        ⟨rejected, report.trans reports, span, rest, log, later.trans log'⟩⟩,
      mismatchTold_handle .., mismatchTold_handle ..⟩
  · obtain ⟨same, asked, result, log⟩ :=
      @handle_alike_of_read state dispatcher conditions delivery other tag id alike bench read
    refine ⟨made.trans asked, left.trans same,
      ⟨_, _, rfl, rfl, fun _ => ⟨report.trans (congrArg JobReport.untimed result), ?_⟩,
        fun unread => absurd unread read⟩,
      mismatchTold_handle .., mismatchTold_handle ..⟩
    have shown := congrArg (List.map Entry.untimed) log
    rw [untimed_withoutMismatches] at shown ⊢
    exact (congrArg withoutMismatches later).trans shown

/-- Of three objects one is staged, one is passed over as a manifest and one is a placeholder.  The
largest number there is, announced with other metadata and handled by another clock, changes nothing but
what is told of it and the times. -/
theorem handle_ignores_largest_count :
    let dispatcher : Dispatcher (List String) :=
      { Rehearsal.dispatcher ⟨"data", [{ key := "p/f", content := [1] },
            { key := "p/m.json", content := [2] }, { key := "p/d/", content := [] }], none⟩
          (Rehearsal.EngineScript.engine []) with
        settings := ⟨⟨"/w"⟩, "data", true⟩ }
    let stopwatch : Stopwatch := ⟨fun _ => .ofSeconds 1 0, fun _ => .ofSeconds 2 0, .ofSeconds 3 0⟩
    let bench : Bench (List String) := ⟨Rehearsal.stage, [], {}⟩
    let delivery := Rehearsal.deliveryOf "\x7b\"payload_id\":\"p\",\"workflows\":[\"x\"]\x7d"
    let other : Delivery :=
      { Rehearsal.deliveryOf ("\x7b\"workflows\":[\"x\"],\"file_count\":18446744073709551615," ++
          "\"payload_id\":\"p\"\x7d") with
        appId := some "publisher"
        routingKey := "others" }
    let work := dispatcher.handle {} bench delivery
    let work' := dispatcher.handle { stopwatch := stopwatch } bench other
    Body.AlikeButCount delivery.body other.body ∧ calls work'.journal = calls work.journal ∧
      work'.bench = work.bench ∧ work'.result.untimed = work.result.untimed ∧
      work'.result.elapsed = .ofSeconds 3 0 ∧
      (messages work.journal).filter (·.kind = .mismatch) = [] ∧
      (messages work'.journal).filter (·.kind = .mismatch) =
        [.fileCountMismatch "p" 18446744073709551615 2] := by
  intro dispatcher stopwatch bench delivery other work work'
  let payload : Bytes × Json.Value := (Text.encode "payload_id", .text (Text.encode "p"))
  let workflows : Bytes × Json.Value :=
    (Text.encode "workflows", .array [.text (Text.encode "x")])
  let number : Bytes × Json.Value :=
    (Text.encode "file_count", .number (Body.decimals 18446744073709551615))
  have payloadKey : Json.textOf? payload.1 = some "payload_id" := by decide +kernel
  have workflowsKey : Json.textOf? workflows.1 = some "workflows" := by decide +kernel
  have numberKey : Json.textOf? number.1 = some "file_count" := by decide +kernel
  have silent : Body.Tells delivery.body (.members [payload, workflows]) none := by
    have text : (Json.Value.object [payload, workflows]).IsText delivery.body :=
      Json.written_of_tokens? (by decide +kernel)
    refine .object text ?_ ?_
    · simp [Body.withoutCount, payloadKey, workflowsKey, Body.Member.key]
    · simp only [Body.under, List.filter_cons, payloadKey, workflowsKey]
      exact .absent rfl
  have loud : Body.Tells other.body (.members [payload, workflows])
      (some 18446744073709551615) := by
    have text : (Json.Value.object [workflows, number, payload]).IsText other.body :=
      Json.written_of_tokens? (by decide +kernel)
    refine .object text ?_ ?_
    · simpa [Body.withoutCount, payloadKey, workflowsKey, numberKey, Body.Member.key] using
        List.Perm.swap payload workflows []
    · simp only [Body.under, List.filter_cons, payloadKey, workflowsKey, numberKey]
      exact .once (.some rfl)
  have alike : Body.AlikeButCount delivery.body other.body := Or.inr ⟨_, _, _, silent, loud⟩
  obtain ⟨same, left, ⟨later, later', -, -, read, -⟩, -⟩ :=
    @handle_ignores_advice _ dispatcher {} stopwatch bench delivery other rfl rfl alike
  have readable : Body.parse? delivery.body ≠ none := by decide +kernel
  exact ⟨alike, same, left, (read readable).1, rfl, by decide +kernel, by decide +kernel⟩

/-- The parser names the place at which a body went wrong, and a number before it moves that place.  In
a list the number has a place of its own: the list cannot be read without it. -/
theorem handle_names_moved_place :
    let words (column : Nat) :=
      s!"invalid type: integer \x601\x60, expected a string at line 1 column {column}"
    let dispatcher : Dispatcher (List String) :=
      { Rehearsal.dispatcher ⟨"data", [], none⟩ (Rehearsal.EngineScript.engine []) with
        wording := fun body => words (body.length - 1) }
    let bench : Bench (List String) := ⟨Rehearsal.stage, [], {}⟩
    let few := Rehearsal.deliveryOf "\x7b\"file_count\":5,\"payload_id\":1\x7d"
    let many := Rehearsal.deliveryOf "\x7b\"file_count\":500,\"payload_id\":1\x7d"
    let whole := Rehearsal.deliveryOf "[\"p\",[\"w\"],\"b\",5]"
    let short := Rehearsal.deliveryOf "[\"p\",[\"w\"],\"b\"]"
    Body.AlikeButCount few.body many.body ∧
      (dispatcher.handle {} bench few).result.outcome = .rejected (.malformedBody (words 30)) ∧
      (dispatcher.handle {} bench many).result.outcome = .rejected (.malformedBody (words 32)) ∧
      words 30 ≠ words 32 ∧
      (dispatcher.handle {} bench whole).result.outcome.label = "executed" ∧
      (dispatcher.handle {} bench short).result.outcome.label = "rejected" := by
  intro words dispatcher bench few many whole short
  let payload : Bytes × Json.Value := (Text.encode "payload_id", .number (Body.decimals 1))
  have payloadKey : Json.textOf? payload.1 = some "payload_id" := by decide +kernel
  have told (count : UInt64) {content : Bytes}
      (text : (Json.Value.object [(Text.encode "file_count", .number (Body.decimals count.toNat)),
        payload]).IsText content) :
      Body.Tells content (.members [payload]) (some count) := by
    have numberKey : Json.textOf? (Text.encode "file_count") = some "file_count" := by decide +kernel
    refine .object text ?_ ?_
    · simp [Body.withoutCount, payloadKey, numberKey, Body.Member.key]
    · simp only [Body.under, List.filter_cons, payloadKey, numberKey]
      exact .once (.some rfl)
  have alike : Body.AlikeButCount few.body many.body :=
    Or.inr ⟨_, _, _, told 5 (Json.written_of_tokens? (by decide +kernel)),
      told 500 (Json.written_of_tokens? (by decide +kernel))⟩
  exact ⟨alike, by decide +kernel, by decide +kernel, by decide +kernel, by decide +kernel,
    by decide +kernel⟩

end Dispatcher
end Stagehand
