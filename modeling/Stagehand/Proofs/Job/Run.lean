import Stagehand.Proofs.Job.Calls
import Stagehand.Rehearsal.Dispatcher
import Stagehand.Rehearsal.Engine

/-! # A run, delivery by delivery

A run is a list of jobs, one for each delivery it was handed, and at most one more wait in which it
was handed none.  Its journal, its totals and its ending are read off these, so every delivery is
handled in the order of its arrival, on what the job before it left, and acknowledged before the
next is awaited; and the session is closed once, in the end.
-/

set_option autoImplicit false

namespace Stagehand

theorem Wait.arrival_of_follow {signal : StopSignal} {arrival handed : Arrival}
    (steps : List WaitStep) (h : (Wait.follow signal arrival steps).arrival = some handed) :
    handed = arrival := by
  induction steps generalizing signal with
  | nil =>
      simp only [Wait.follow] at h
      split at h
      · cases h
      · exact (Option.some.inj h).symm
  | cons step rest ih =>
      cases step with
      | stopRequest => exact ih h
      | suspension =>
          simp only [Wait.follow] at h
          split at h
          · cases h
          · exact ih h

theorem Wait.brokerCalls_follow (signal : StopSignal) (arrival : Arrival)
    (steps : List WaitStep) : brokerCalls (Wait.follow signal arrival steps).journal = [] := by
  induction steps generalizing signal with
  | nil => rfl
  | cons step rest ih =>
      cases step with
      | stopRequest => exact ih signal.request
      | suspension =>
          simp only [Wait.follow]
          split
          · rfl
          · exact ih signal

/-! ## Totals -/

namespace JobOutcome

def isRejected : JobOutcome → Bool
  | .rejected _ => true
  | _ => false

def isStagingFailed : JobOutcome → Bool
  | .stagingFailed _ => true
  | _ => false

def isExecuted : JobOutcome → Bool
  | .executed _ => true
  | _ => false

end JobOutcome

namespace RunSummary

/-- The totals with several reports added. -/
def recordAll (summary : RunSummary) (reports : List JobReport) : RunSummary :=
  reports.foldl record summary

theorem recordAll_cons (summary : RunSummary) (report : JobReport) (reports : List JobReport) :
    summary.recordAll (report :: reports) = (summary.record report).recordAll reports := rfl

theorem recordAll_counts (reports : List JobReport) (summary : RunSummary) :
    (summary.recordAll reports).processed = summary.processed + reports.length ∧
    (summary.recordAll reports).rejected =
      summary.rejected + reports.countP (fun report => report.outcome.isRejected) ∧
    (summary.recordAll reports).stagingFailed =
      summary.stagingFailed + reports.countP (fun report => report.outcome.isStagingFailed) ∧
    (summary.recordAll reports).executed =
      summary.executed + reports.countP (fun report => report.outcome.isExecuted) ∧
    (summary.recordAll reports).acknowledgmentFailures =
      summary.acknowledgmentFailures + reports.countP fun report => !report.acknowledged := by
  induction reports generalizing summary with
  | nil => exact ⟨rfl, rfl, rfl, rfl, rfl⟩
  | cons report others ih =>
      obtain ⟨processed, rejected, stagingFailed, executed, failures⟩ := ih (summary.record report)
      rw [recordAll_cons, processed, rejected, stagingFailed, executed, failures]
      simp only [List.countP_cons, List.length_cons]
      cases ending : report.outcome <;> cases flag : report.acknowledged <;>
        simp [record, count, ending, flag, JobOutcome.isRejected, JobOutcome.isStagingFailed,
          JobOutcome.isExecuted] <;> omega

/-- Every processed job is counted under exactly one outcome. -/
def Balanced (summary : RunSummary) : Prop :=
  summary.processed = summary.rejected + summary.stagingFailed + summary.executed

theorem balanced_record {summary : RunSummary} (balanced : summary.Balanced)
    (report : JobReport) : (summary.record report).Balanced := by
  unfold Balanced at balanced ⊢
  cases ending : report.outcome <;> simp only [record, count, ending] <;> omega

theorem balanced_recordAll (reports : List JobReport) {summary : RunSummary}
    (balanced : summary.Balanced) : (summary.recordAll reports).Balanced := by
  induction reports generalizing summary with
  | nil => exact balanced
  | cons report others ih => exact ih (balanced_record balanced report)

end RunSummary

namespace Dispatcher

variable {state : Type}

/-! ## Jobs and the waits before them -/

/-- A delivery taken by a run, with the wait that handed it over, what its job meets, and the bench it
is handled on. -/
structure Job (state : Type) where
  wait : Wait
  conditions : Conditions
  start : Bench state
  delivery : Delivery

/-- The entries of a wait, from its announcement to its end. -/
def waitEntries (wait : Wait) : List Entry :=
  [.log .waitingForDeliveries, .call .nextDelivery] ++ wait.journal

/-- The handling of a job's delivery, as it is for a single one. -/
def workOf (dispatcher : Dispatcher state) (job : Job state) : BenchWork state JobReport :=
  dispatcher.handle job.conditions job.start job.delivery

/-- The bench that a job leaves. -/
def benchAfter (dispatcher : Dispatcher state) (job : Job state) : Bench state :=
  let left := (dispatcher.workOf job).bench
  { left with signal := left.signal.jobFinished }

def jobEntries (dispatcher : Dispatcher state) (job : Job state) : List Entry :=
  waitEntries job.wait ++ (dispatcher.workOf job).journal

/-- The jobs of a run in order, the wait after them that handed over no delivery, and the bench at
the end.  There is no such wait if a stop was asked for before it. -/
inductive Serves (dispatcher : Dispatcher state) :
    Bench state → List Turn → List (Job state) → Option Wait → Bench state → Prop where
  | stopped {bench : Bench state} {turns : List Turn} (asked : bench.signal.requested = true) :
      Serves dispatcher bench turns [] none bench
  | exhausted {bench : Bench state} (calm : bench.signal.requested = false) :
      Serves dispatcher bench [] []
        (some ⟨bench.signal, [], some .subscriptionEnd⟩) bench
  | ended {bench : Bench state} {turn : Turn} {turns : List Turn} {wait : Wait}
      (calm : bench.signal.requested = false)
      (waited : wait = Wait.follow bench.signal turn.arrival turn.steps)
      (none : ∀ delivery, wait.arrival ≠ some (.delivery delivery)) :
      Serves dispatcher bench (turn :: turns) [] (some wait)
        { bench with signal := wait.signal }
  | taken {bench after : Bench state} {turn : Turn} {turns : List Turn} {job : Job state}
      {jobs : List (Job state)} {last : Option Wait}
      (calm : bench.signal.requested = false)
      (waited : job.wait = Wait.follow bench.signal turn.arrival turn.steps)
      (handed : job.wait.arrival = some (.delivery job.delivery))
      (met : job.conditions = turn.conditions)
      (begun : job.start = { bench with signal := job.wait.signal.jobStarted })
      (rest : Serves dispatcher (dispatcher.benchAfter job) turns jobs
        last after) :
      Serves dispatcher bench (turn :: turns) (job :: jobs) last after

/-- Each job starts on the tree and with the engine that the one before it left. -/
def Succession (dispatcher : Dispatcher state) :
    Bench state → List (Job state) → Bench state → Prop
  | before, [], after => after.tree = before.tree ∧ after.engine = before.engine
  | before, job :: jobs, after =>
      job.start.tree = before.tree ∧ job.start.engine = before.engine ∧
        Succession dispatcher (dispatcher.workOf job).bench jobs after

/-- The journal of what follows the last job, up to the closing of the session. -/
def lastEntries : Option Wait → List Entry
  | none => [.log .stopRequested]
  | some wait =>
      waitEntries wait ++
        match wait.arrival with
        | none => [.log .stopRequested]
        | some .subscriptionEnd => [.log .subscriptionEnded]
        | some _ => []

/-- How a run ends with given totals, by its last wait. -/
def endingAfter (summary : RunSummary) : Option Wait → RunEnding
  | none => .finished summary
  | some wait =>
      match wait.arrival with
      | some (.failure reason) => .failed reason
      | some .never => .waiting
      | _ => .finished summary

def reportsOf (dispatcher : Dispatcher state) (jobs : List (Job state)) : List JobReport :=
  jobs.map fun job => (dispatcher.workOf job).result

section

variable (dispatcher : Dispatcher state) {bench : Bench state} (summary : RunSummary)

theorem consume_of_asked (asked : bench.signal.requested = true) (turns : List Turn) :
    dispatcher.consume bench summary turns =
      ⟨bench, lastEntries none, endingAfter summary none⟩ := by
  cases turns <;>
  · simp only [consume, asked, if_true]
    rfl

theorem consume_of_exhausted (calm : bench.signal.requested = false) :
    dispatcher.consume bench summary [] =
      ⟨bench, lastEntries (some ⟨bench.signal, [], some .subscriptionEnd⟩),
        endingAfter summary (some ⟨bench.signal, [], some .subscriptionEnd⟩)⟩ := by
  simp only [consume, calm]
  rfl

/-- A wait that hands over no delivery is the last one. -/
theorem consume_of_undelivered {turn : Turn} (calm : bench.signal.requested = false)
    (turns : List Turn)
    (none : ∀ delivery, (Wait.follow bench.signal turn.arrival turn.steps).arrival ≠
      some (.delivery delivery)) :
    let wait := Wait.follow bench.signal turn.arrival turn.steps
    dispatcher.consume bench summary (turn :: turns) =
      ⟨{ bench with signal := wait.signal }, lastEntries (some wait),
        endingAfter summary (some wait)⟩ := by
  dsimp only
  cases answer : (Wait.follow bench.signal turn.arrival turn.steps).arrival with
  | none => simp [consume, calm, answer, precededBy, stopping, lastEntries, waitEntries, endingAfter]
  | some arrival =>
      cases arrival with
      | delivery delivery => exact absurd answer (none delivery)
      | subscriptionEnd =>
          simp [consume, calm, answer, precededBy, stopping, lastEntries, waitEntries, endingAfter]
      | failure reason =>
          simp [consume, calm, answer, precededBy, lastEntries, waitEntries, endingAfter]
      | never => simp [consume, calm, answer, precededBy, lastEntries, waitEntries, endingAfter]

/-- A wait that hands over a delivery starts a job, and the run goes on with what it leaves. -/
theorem consume_of_delivery {turn : Turn} {job : Job state}
    (calm : bench.signal.requested = false)
    (waited : job.wait = Wait.follow bench.signal turn.arrival turn.steps)
    (handed : job.wait.arrival = some (.delivery job.delivery))
    (met : job.conditions = turn.conditions)
    (begun : job.start = { bench with signal := job.wait.signal.jobStarted })
    (turns : List Turn) :
    dispatcher.consume bench summary (turn :: turns) =
      precededBy (dispatcher.jobEntries job)
        (dispatcher.consume (dispatcher.benchAfter job)
          (summary.record (dispatcher.workOf job).result) turns) := by
  rw [waited] at handed
  simp only [consume, calm, handed]
  simp only [precededBy, jobEntries, waitEntries, workOf, benchAfter, met, begun, waited,
    List.append_assoc, Bool.false_eq_true, if_false]

end

/-- A run serves its turns, and leaves what the jobs that it served and its last wait say. -/
theorem consume_serves (dispatcher : Dispatcher state) (turns : List Turn) (bench : Bench state)
    (summary : RunSummary) :
    ∃ jobs last after, Serves dispatcher bench turns jobs last after ∧
      dispatcher.consume bench summary turns =
        ⟨after, jobs.flatMap dispatcher.jobEntries ++ lastEntries last,
          endingAfter (summary.recordAll (dispatcher.reportsOf jobs)) last⟩ := by
  induction turns generalizing bench summary with
  | nil =>
      cases asked : bench.signal.requested with
      | true => exact ⟨[], none, bench, .stopped asked, consume_of_asked _ _ asked []⟩
      | false => exact ⟨[], _, bench, .exhausted asked, consume_of_exhausted _ _ asked⟩
  | cons turn turns ih =>
      cases asked : bench.signal.requested with
      | true => exact ⟨[], none, bench, .stopped asked, consume_of_asked _ _ asked _⟩
      | false =>
          let wait := Wait.follow bench.signal turn.arrival turn.steps
          -- Only a wait that hands over a delivery lets the run go on.
          by_cases taken : ∃ delivery, wait.arrival = some (.delivery delivery)
          · obtain ⟨delivery, answer⟩ := taken
            let job : Job state :=
              ⟨wait, turn.conditions, { bench with signal := wait.signal.jobStarted }, delivery⟩
            obtain ⟨jobs, last, after, served, consumed⟩ :=
              ih (dispatcher.benchAfter job)
                (summary.record (dispatcher.workOf job).result)
            refine ⟨job :: jobs, last, after, .taken asked rfl answer rfl rfl served, ?_⟩
            rw [@consume_of_delivery state dispatcher bench summary turn job asked rfl answer rfl rfl
              turns, consumed]
            simp only [precededBy, List.flatMap_cons, List.append_assoc, reportsOf, List.map_cons,
              RunSummary.recordAll_cons]
          · have none := not_exists.mp taken
            exact ⟨[], some wait, _, .ended asked rfl none,
              consume_of_undelivered _ _ asked turns none⟩

variable {dispatcher : Dispatcher state} {bench after : Bench state} {turns : List Turn}
  {jobs : List (Job state)} {last : Option Wait}

theorem Serves.succession (served : Serves dispatcher bench turns jobs last after) :
    Succession dispatcher bench jobs after := by
  induction served with
  | stopped | exhausted | ended => exact ⟨rfl, rfl⟩
  | @taken bench after turn turns job jobs last calm waited handed met begun rest ih =>
      refine ⟨by rw [begun], by rw [begun], ?_⟩
      -- Between two jobs only the signal changes, which a succession does not look at.
      cases jobs <;> exact ih

theorem Serves.handed_over (served : Serves dispatcher bench turns jobs last after) :
    (turns.take jobs.length).map Turn.arrival =
      jobs.map fun job => Arrival.delivery job.delivery := by
  induction served with
  | stopped | exhausted | ended => rfl
  | taken calm waited handed met begun rest ih =>
      rw [waited] at handed
      simp only [List.length_cons, List.take_succ_cons, List.map_cons, ih,
        Wait.arrival_of_follow _ handed]

theorem Serves.conditions_met (served : Serves dispatcher bench turns jobs last after) :
    (turns.take jobs.length).map Turn.conditions = jobs.map Job.conditions := by
  induction served with
  | stopped | exhausted | ended => rfl
  | taken calm waited handed met begun rest ih =>
      simp only [List.length_cons, List.take_succ_cons, List.map_cons, ih, met]

theorem Serves.brokerCalls_jobs
    (served : Serves dispatcher bench turns jobs last after) :
    brokerCalls (jobs.flatMap dispatcher.jobEntries) =
      jobs.flatMap fun job => [.nextDelivery, .acknowledge job.delivery.tag] := by
  induction served with
  | stopped | exhausted | ended => rfl
  | @taken bench after turn turns job jobs last calm waited handed met begun rest ih =>
      have quiet : brokerCalls (waitEntries job.wait) = [.nextDelivery] := by
        rw [waited]
        exact congrArg (Call.nextDelivery :: ·) (Wait.brokerCalls_follow _ _ _)
      have own : brokerCalls (dispatcher.workOf job).journal =
          [.acknowledge job.delivery.tag] := brokerCalls_handle _ _ _ _
      simp only [List.flatMap_cons, jobEntries, brokerCalls_append, quiet, own, ih]
      rfl

theorem Serves.brokerCalls_last
    (served : Serves dispatcher bench turns jobs last after) :
    brokerCalls (lastEntries last) = last.toList.map fun _ => .nextDelivery := by
  induction served with
  | stopped | exhausted => rfl
  | @ended bench turn turns wait calm waited none =>
      have quiet : brokerCalls (waitEntries wait) = [.nextDelivery] := by
        rw [waited]
        exact congrArg (Call.nextDelivery :: ·) (Wait.brokerCalls_follow _ _ _)
      simp only [lastEntries, brokerCalls_append, quiet]
      split <;> rfl
  | taken calm waited handed met begun rest ih => exact ih

theorem reports_processed (dispatcher : Dispatcher state) (jobs : List (Job state)) :
    let totals := ({} : RunSummary).recordAll (dispatcher.reportsOf jobs)
    totals.processed = jobs.length ∧
      totals.processed = totals.rejected + totals.stagingFailed + totals.executed ∧
      totals.rejected =
        jobs.countP (fun job => (dispatcher.workOf job).result.outcome.isRejected) ∧
      totals.stagingFailed =
        jobs.countP
          (fun job => (dispatcher.workOf job).result.outcome.isStagingFailed) ∧
      totals.executed =
        jobs.countP (fun job => (dispatcher.workOf job).result.outcome.isExecuted) ∧
      totals.acknowledgmentFailures =
        jobs.countP (fun job => !job.conditions.acknowledgment.isOk) := by
  obtain ⟨processed, rejected, stagingFailed, executed, failures⟩ :=
    RunSummary.recordAll_counts (dispatcher.reportsOf jobs) {}
  have flags (job : Job state) : (dispatcher.workOf job).result.acknowledged =
      job.conditions.acknowledgment.isOk := by
    have iff : (dispatcher.workOf job).result.acknowledged = true ↔
        job.conditions.acknowledgment = .ok () := acknowledged_handle_iff _ _ _ _
    cases answer : job.conditions.acknowledgment with
    | ok accepted => exact iff.mpr answer
    | error reason =>
        refine Bool.eq_false_iff.mpr ?_
        rw [ne_eq, iff, answer]
        simp
  simp only [reportsOf, List.length_map, List.countP_map, Nat.zero_add] at *
  refine ⟨processed, RunSummary.balanced_recordAll _ rfl, rejected, stagingFailed, executed, ?_⟩
  rw [failures]
  congr 1
  funext job
  exact congrArg (!·) (flags job)

theorem acknowledged_of_jobs (jobs : List (Job state)) :
    (jobs.flatMap fun job => [Call.nextDelivery, .acknowledge job.delivery.tag]).filterMap
      Call.acknowledged? = jobs.map fun job => job.delivery.tag := by
  induction jobs with
  | nil => rfl
  | cons job others ih => exact congrArg (job.delivery.tag :: ·) ih

theorem calls_closeEntries (close : Except BrokerError Unit) :
    calls (closeEntries close) = [.close] := by
  unfold closeEntries
  split <;> rfl

/-- The journal of a run that returns lists the entries of its jobs, one after the other, then those
of the last wait, then the closing of the session. -/
theorem run_of_returned {dispatcher : Dispatcher state} {session : BrokerSession}
    {bench : Bench state} (returned : (dispatcher.run session bench).result ≠ .waiting) :
    ∃ jobs last, Serves dispatcher bench session.turns jobs last
        (dispatcher.run session bench).bench ∧
      (dispatcher.run session bench).journal =
        jobs.flatMap dispatcher.jobEntries ++ lastEntries last ++ closeEntries session.close ∧
      (dispatcher.run session bench).result =
        endingAfter (({} : RunSummary).recordAll (dispatcher.reportsOf jobs)) last := by
  obtain ⟨jobs, last, after, served, consumed⟩ := consume_serves dispatcher session.turns bench {}
  unfold run at returned ⊢
  rw [consumed] at returned ⊢
  dsimp only at returned ⊢
  split at returned
  · rename_i waiting
    exact absurd waiting returned
  · exact ⟨jobs, last, served, rfl, rfl⟩

/-- A run that returns has taken the deliveries of the first turns in order, has handled each on
what the one before left and acknowledged it before it waited again, and has closed the session
once, in the end.  Only a failure of the broker keeps it from returning its totals. -/
theorem run_acknowledges_in_order (dispatcher : Dispatcher state) (session : BrokerSession)
    (bench : Bench state) (returned : (dispatcher.run session bench).result ≠ .waiting) :
    let work := dispatcher.run session bench
    ∃ jobs last, Serves dispatcher bench session.turns jobs last work.bench ∧
      (session.turns.take jobs.length).map Turn.arrival =
        jobs.map (fun job => .delivery job.delivery) ∧
      (session.turns.take jobs.length).map Turn.conditions = jobs.map Job.conditions ∧
      acknowledgedTags work.journal = jobs.map (fun job => job.delivery.tag) ∧
      brokerCalls work.journal =
        jobs.flatMap (fun job => [.nextDelivery, .acknowledge job.delivery.tag]) ++
          last.toList.map (fun _ => .nextDelivery) ++ [.close] ∧
      (∃ before, calls work.journal = before ++ [.close] ∧ .close ∉ before) ∧
      Succession dispatcher bench jobs work.bench ∧
      work.journal =
        jobs.flatMap dispatcher.jobEntries ++ lastEntries last ++ closeEntries session.close ∧
      (∀ reason, work.result = .failed reason ↔
        last.bind Wait.arrival = some (.failure reason)) ∧
      ((∀ reason, last.bind Wait.arrival ≠ some (.failure reason)) →
        ∃ totals, work.result = .finished totals ∧
          totals.processed = jobs.length ∧
          totals.processed = totals.rejected + totals.stagingFailed + totals.executed ∧
          totals.rejected = jobs.countP (fun job =>
            (dispatcher.workOf job).result.outcome.isRejected) ∧
          totals.stagingFailed = jobs.countP (fun job =>
            (dispatcher.workOf job).result.outcome.isStagingFailed) ∧
          totals.executed = jobs.countP (fun job =>
            (dispatcher.workOf job).result.outcome.isExecuted) ∧
          totals.acknowledgmentFailures = jobs.countP (fun job =>
            !job.conditions.acknowledgment.isOk)) := by
  obtain ⟨jobs, last, served, journal, result⟩ := run_of_returned returned
  have asked : brokerCalls (dispatcher.run session bench).journal =
      jobs.flatMap (fun job => [.nextDelivery, .acknowledge job.delivery.tag]) ++
        last.toList.map (fun _ => .nextDelivery) ++ [.close] := by
    rw [journal, brokerCalls_append, brokerCalls_append, served.brokerCalls_jobs,
      served.brokerCalls_last, brokerCalls, calls_closeEntries]
    rfl
  have tags : acknowledgedTags (dispatcher.run session bench).journal =
      jobs.map fun job => job.delivery.tag := by
    rw [acknowledgedTags_eq_brokerCalls, asked]
    simp only [List.filterMap_append, acknowledged_of_jobs]
    cases last <;> simp [List.filterMap_cons, Call.acknowledged?]
  refine ⟨jobs, last, served, served.handed_over, served.conditions_met, tags, asked, ?_,
    served.succession, journal, ?_, ?_⟩
  · refine ⟨calls (jobs.flatMap dispatcher.jobEntries ++ lastEntries last),
      by rw [journal, calls_append, calls_closeEntries], ?_⟩
    intro member
    have broker : Call.close ∈
        brokerCalls (jobs.flatMap dispatcher.jobEntries ++ lastEntries last) :=
      List.mem_filter.mpr ⟨member, rfl⟩
    rw [brokerCalls_append, served.brokerCalls_jobs, served.brokerCalls_last] at broker
    simp at broker
  · intro reason
    rw [result]
    cases last with
    | none => simp [endingAfter]
    | some wait =>
        simp only [endingAfter, Option.bind_some]
        split <;> simp_all
  · intro unfailed
    refine ⟨_, ?_, reports_processed dispatcher jobs⟩
    rw [result]
    rw [result] at returned
    cases last with
    | none => rfl
    | some wait =>
        simp only [endingAfter, Option.bind_some] at returned unfailed ⊢
        split
        · rename_i reason failed
          exact absurd failed (unfailed reason)
        · rename_i never
          simp [never] at returned
        · rfl

theorem run_acknowledges_repeated_tag :
    let dispatcher := Rehearsal.dispatcher ⟨"data", [], none⟩ (Rehearsal.EngineScript.engine [])
    let session := Rehearsal.session
      [Rehearsal.delivery 7 "first" "p" "x", Rehearsal.delivery 7 "second" "p" "x"]
    let bench : Bench (List String) := ⟨Rehearsal.stage, [], {}⟩
    let work := dispatcher.run session bench
    work.result ≠ .waiting ∧
      ∃ jobs last, Serves dispatcher bench session.turns jobs last work.bench ∧
        acknowledgedTags work.journal = jobs.map (fun job => job.delivery.tag) := by
  intro dispatcher session bench work
  have returned : work.result ≠ .waiting := by decide +kernel
  obtain ⟨jobs, last, served, -, -, tags, -⟩ :=
    run_acknowledges_in_order dispatcher session bench returned
  exact ⟨returned, jobs, last, served, tags⟩

end Dispatcher
end Stagehand
