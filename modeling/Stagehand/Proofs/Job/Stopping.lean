import Stagehand.Proofs.Job.Run
import Stagehand.Proofs.Job.Signal

/-! # Runs that are asked to stop

The loop looks at the signal before each wait, and a wait at each suspension, which leaves one delivery
at most to be handled after the first request: the one whose job is in flight, or the one that arrives
without a suspension.
-/

set_option autoImplicit false

namespace Stagehand.Dispatcher

variable {state : Type}

/-! ## One turn -/

section

variable {dispatcher : Dispatcher state} {bench after : Bench state} {turn : Turn}
  {turns : List Turn} {job : Job state} {jobs : List (Job state)} {last : Option Wait}

theorem hears_wait (signal : StopSignal) (arrival : Arrival) (steps : List WaitStep) :
    Hears .stopWhileWaiting signal (waitEntries (Wait.follow signal arrival steps))
      (Wait.follow signal arrival steps).signal :=
  (Wait.hears_follow signal arrival steps).congr rfl

/-- A job leaves the signal set if a stop was asked for in it or in the wait before it. -/
theorem requested_benchAfter (calm : bench.signal.requested = false)
    (waited : job.wait = Wait.follow bench.signal turn.arrival turn.steps)
    (begun : job.start = { bench with signal := job.wait.signal.jobStarted }) :
    (dispatcher.benchAfter job).signal.requested = true ↔
      stopCalls (dispatcher.jobEntries job) ≠ [] := by
  have waiting := hears_wait bench.signal turn.arrival turn.steps
  rw [← waited] at waiting
  have working := hears_handle dispatcher job.conditions job.start job.delivery
  have started : job.start.signal.requested = job.wait.signal.requested := by
    rw [begun]
    rfl
  have finished : (dispatcher.benchAfter job).signal.requested =
      (dispatcher.workOf job).bench.signal.requested := rfl
  rw [finished, workOf, working.requested, started, waiting.requested, calm, jobEntries,
    stopCalls_append_ne_nil, workOf]
  simp only [Bool.false_eq_true, false_or]

theorem idle_benchAfter (job : Job state) :
    (dispatcher.benchAfter job).signal.busy = false := rfl

/-! ## The turns of a run -/

theorem Serves.nothing_of_asked
    (served : Serves dispatcher bench turns jobs last after)
    (asked : bench.signal.requested = true) : jobs = [] ∧ last = none := by
  cases served with
  | stopped => exact ⟨rfl, rfl⟩
  | exhausted calm | ended calm | taken calm =>
      rw [asked] at calm
      cases calm

/-- A job in which a stop is asked for, or in the wait before which one is, is the last thing that is
done. -/
theorem Serves.last_of_asked
    (served : Serves dispatcher bench turns jobs last after)
    {front back : List (Job state)} (split : jobs = front ++ job :: back)
    (asked : stopCalls (dispatcher.jobEntries job) ≠ []) :
    back = [] ∧ last = none := by
  induction served generalizing front with
  | stopped | exhausted | ended => simp at split
  | @taken bench after turn turns first jobs last calm waited handed met begun rest ih =>
      cases front with
      | nil =>
          obtain ⟨rfl, rfl⟩ := List.cons.inj split
          exact rest.nothing_of_asked ((requested_benchAfter calm waited begun).mpr asked)
      | cons other front => exact ih (List.cons.inj split).2

/-- A wait that is suspended after a stop was asked for in it. -/
def SuspendsAsked (turn : Turn) : Prop :=
  ∃ quiet more, turn.steps = quiet ++ .stopRequest :: more ∧ .suspension ∈ more

/-- A turn that is suspended after a stop was asked for in it is not among those that are served. -/
theorem Serves.unserved_of_suspended
    (served : Serves dispatcher bench turns jobs last after)
    {front back : List Turn} (split : turns = front ++ turn :: back)
    (suspends : SuspendsAsked turn) : jobs.length ≤ front.length := by
  induction served generalizing front with
  | stopped | exhausted | ended => exact Nat.zero_le _
  | taken calm waited handed met begun rest ih =>
      cases front with
      | nil =>
          obtain ⟨rfl, rfl⟩ := List.cons.inj split
          obtain ⟨quiet, more, steps, suspended⟩ := suspends
          rw [waited, steps, Wait.arrival_of_suspended _ _ quiet suspended] at handed
          cases handed
      | cons other front => exact Nat.succ_le_succ (ih (List.cons.inj split).2)

/-! ## What a stop request is told -/

/-- The stop requests around a job: those before it come to an idle dispatcher, those in it to a busy
one, from its start to its end. -/
structure ToldAbout (dispatcher : Dispatcher state) (job : Job state) : Prop where
  waiting : ∀ call ∈ stopCalls (waitEntries job.wait), call = .stopWhileWaiting .graceful
  working : ∀ call ∈ stopCalls (dispatcher.workOf job).journal,
    call = .stopDuringJob .abrupt
  starts : job.start.signal.mode = .abrupt
  ends : (dispatcher.workOf job).bench.signal.mode = .abrupt
  leaves : (dispatcher.benchAfter job).signal.mode = .graceful

theorem told_waiting {signal : StopSignal} (idle : signal.busy = false) {wait : Wait}
    (waited : wait = Wait.follow signal turn.arrival turn.steps) :
    ∀ call ∈ stopCalls (waitEntries wait), call = .stopWhileWaiting .graceful := by
  have heard := hears_wait signal turn.arrival turn.steps
  have mode : signal.mode = .graceful := by simp [StopSignal.mode, idle]
  rw [waited, ← mode]
  exact heard.told

theorem Serves.told (served : Serves dispatcher bench turns jobs last after)
    (idle : bench.signal.busy = false) :
    (∀ job ∈ jobs, ToldAbout dispatcher job) ∧
      ∀ wait ∈ last, ∀ call ∈ stopCalls (waitEntries wait), call = .stopWhileWaiting .graceful := by
  induction served with
  | stopped => exact ⟨by simp, by simp⟩
  | exhausted => exact ⟨by simp, by simp [waitEntries, stopCalls, Call.isStop]⟩
  | ended calm waited none =>
      refine ⟨by simp, ?_⟩
      intro wait member
      cases Option.mem_some.mp member
      exact told_waiting idle waited
  | @taken bench after turn turns job jobs last calm waited handed met begun rest ih =>
      obtain ⟨others, final⟩ := ih (idle_benchAfter job)
      refine ⟨?_, final⟩
      have heard := hears_handle dispatcher job.conditions job.start job.delivery
      have busy : job.start.signal.mode = .abrupt := by
        rw [begun]
        rfl
      have still : (dispatcher.workOf job).bench.signal.mode = .abrupt := by
        rw [← busy, StopSignal.mode, StopSignal.mode, workOf, heard.busy]
      intro other member
      rcases List.mem_cons.mp member with rfl | member
      · exact ⟨told_waiting idle waited, busy ▸ heard.told, busy, still, rfl⟩
      · exact others other member

theorem Serves.idle (served : Serves dispatcher bench turns jobs last after)
    (idle : bench.signal.busy = false) : after.signal.busy = false := by
  induction served with
  | stopped | exhausted => exact idle
  | ended calm waited none => rw [← idle, waited, (Wait.hears_follow _ _ _).busy]
  | taken calm waited handed met begun rest ih => exact ih rfl

/-! ## The calls of a run -/

/-- The dispatcher does not ask for a delivery after a stop request. -/
def OrderedAsked (earlier later : Call) : Prop :=
  earlier.isStop = true → later ≠ .nextDelivery

theorem orderedAsked_of_not_mem {made : List Call} (none : .nextDelivery ∉ made) :
    made.Pairwise OrderedAsked := by
  refine List.Pairwise.imp_of_mem ?_ (List.pairwise_of_forall fun _ _ => True.intro)
  intro earlier later _ member _ _ same
  exact none (same ▸ member)

theorem next_not_mem_of_brokerCalls {entries : List Entry}
    (none : .nextDelivery ∉ brokerCalls entries) : .nextDelivery ∉ calls entries :=
  fun member => none (List.mem_filter.mpr ⟨member, rfl⟩)

theorem next_not_mem_follow (signal : StopSignal) (arrival : Arrival) (steps : List WaitStep) :
    .nextDelivery ∉ calls (Wait.follow signal arrival steps).journal := by
  refine next_not_mem_of_brokerCalls ?_
  rw [Wait.brokerCalls_follow]
  exact List.not_mem_nil

theorem orderedAsked_wait {made : List Call} (none : .nextDelivery ∉ made) :
    (Call.nextDelivery :: made).Pairwise OrderedAsked := by
  refine List.Pairwise.cons ?_ (orderedAsked_of_not_mem none)
  intro later _ stop
  cases stop

theorem Serves.orderedAsked (served : Serves dispatcher bench turns jobs last after) :
    (calls (jobs.flatMap dispatcher.jobEntries ++ lastEntries last)).Pairwise
      OrderedAsked := by
  induction served with
  | stopped => exact .nil
  | exhausted => exact List.pairwise_singleton _ _
  | @ended bench turn turns wait calm waited none =>
      have quiet := next_not_mem_follow bench.signal turn.arrival turn.steps
      rw [← waited] at quiet
      have made : calls (lastEntries (some wait)) = .nextDelivery :: calls wait.journal := by
        simp only [lastEntries, waitEntries]
        split <;> simp
      rw [List.flatMap_nil, List.nil_append, made]
      exact orderedAsked_wait quiet
  | @taken bench after turn turns job jobs last calm waited handed met begun rest ih =>
      have quiet := next_not_mem_follow bench.signal turn.arrival turn.steps
      rw [← waited] at quiet
      have own : .nextDelivery ∉ calls (dispatcher.workOf job).journal := by
        refine next_not_mem_of_brokerCalls ?_
        rw [workOf, brokerCalls_handle]
        simp
      have made : calls (dispatcher.jobEntries job) =
          .nextDelivery ::
            (calls job.wait.journal ++ calls (dispatcher.workOf job).journal) := by
        simp [jobEntries, waitEntries]
      rw [List.flatMap_cons, List.append_assoc, calls_append, List.pairwise_append]
      refine ⟨?_, ih, ?_⟩
      · rw [made]
        exact orderedAsked_wait (by simp [quiet, own])
      · intro earlier member later after stop
        -- After a job in which a stop was asked for there is nothing left to serve.
        have asked : stopCalls (dispatcher.jobEntries job) ≠ [] :=
          List.ne_nil_of_mem (List.mem_filter.mpr ⟨member, stop⟩)
        obtain ⟨rfl, rfl⟩ :=
          rest.nothing_of_asked ((requested_benchAfter calm waited begun).mpr asked)
        cases after

/-- A run in which a stop was asked for ends with its totals, or with a failure of the very wait in
which it was asked for. -/
theorem Serves.ending_of_asked
    (served : Serves dispatcher bench turns jobs last after)
    (asked : bench.signal.requested = true ∨
      stopCalls (jobs.flatMap dispatcher.jobEntries ++ lastEntries last) ≠ [])
    (totals : RunSummary) :
    endingAfter totals last = .finished totals ∨
      ∃ wait reason, last = some wait ∧ stopCalls (waitEntries wait) ≠ [] ∧
        wait.arrival = some (.failure reason) ∧ endingAfter totals last = .failed reason := by
  induction served with
  | stopped | exhausted => exact Or.inl rfl
  | @ended bench turn turns wait calm waited none =>
      have stops : stopCalls (waitEntries wait) ≠ [] := by
        rcases asked with asked | asked
        · rw [calm] at asked
          cases asked
        · intro silent
          apply asked
          simp only [List.flatMap_nil, List.nil_append, lastEntries, stopCalls_append, silent]
          split <;> rfl
      have heard := hears_wait bench.signal turn.arrival turn.steps
      rw [← waited] at heard
      have set : wait.signal.requested = true := heard.requested.mpr (Or.inr stops)
      have endless : wait.arrival ≠ some .never := by
        rw [waited] at set ⊢
        exact Wait.arrival_ne_never set
      cases answer : wait.arrival with
      | none => exact Or.inl (by simp [endingAfter, answer])
      | some arrival =>
          cases arrival with
          | delivery delivery => exact absurd answer (none delivery)
          | subscriptionEnd => exact Or.inl (by simp [endingAfter, answer])
          | failure reason =>
              exact Or.inr ⟨wait, reason, rfl, stops, answer, by simp [endingAfter, answer]⟩
          | never => exact absurd answer endless
  | @taken bench after turn turns job jobs last calm waited handed met begun rest ih =>
      by_cases now : stopCalls (dispatcher.jobEntries job) = []
      · refine ih (Or.inr ?_)
        rcases asked with asked | asked
        · rw [calm] at asked
          cases asked
        · rwa [List.flatMap_cons, List.append_assoc, stopCalls_append, now, List.nil_append]
            at asked
      · obtain ⟨rfl, rfl⟩ :=
          rest.nothing_of_asked ((requested_benchAfter calm waited begun).mpr now)
        exact Or.inl rfl

/-! ## A run -/

theorem Serves.acknowledgedTags_eq (served : Serves dispatcher bench turns jobs last after) :
    acknowledgedTags (jobs.flatMap dispatcher.jobEntries ++ lastEntries last) =
      jobs.map fun job => job.delivery.tag := by
  rw [acknowledgedTags_eq_brokerCalls, brokerCalls_append, served.brokerCalls_jobs,
    served.brokerCalls_last, List.filterMap_append, acknowledged_of_jobs]
  cases last <;> simp [Call.acknowledged?]

theorem Serves.close_not_mem (served : Serves dispatcher bench turns jobs last after) :
    .close ∉ calls (jobs.flatMap dispatcher.jobEntries ++ lastEntries last) := by
  intro member
  have broker : Call.close ∈ brokerCalls (jobs.flatMap dispatcher.jobEntries ++ lastEntries last) :=
    List.mem_filter.mpr ⟨member, rfl⟩
  rw [brokerCalls_append, served.brokerCalls_jobs, served.brokerCalls_last] at broker
  simp at broker

/-- The calls of a run, whether it returns or not: the session is closed if it does. -/
theorem run_serves (dispatcher : Dispatcher state) (session : BrokerSession) (bench : Bench state) :
    let work := dispatcher.run session bench
    ∃ jobs last closing,
      Serves dispatcher bench session.turns jobs last work.bench ∧
      work.result =
        endingAfter (({} : RunSummary).recordAll (dispatcher.reportsOf jobs)) last ∧
      calls work.journal =
        calls (jobs.flatMap dispatcher.jobEntries ++ lastEntries last) ++ closing ∧
      (work.result = .waiting ∧ closing = [] ∨ closing = [.close]) := by
  obtain ⟨jobs, last, after, served, consumed⟩ :=
    consume_serves dispatcher session.turns bench {}
  unfold run
  rw [consumed]
  generalize ended : endingAfter _ last = ending
  cases ending with
  | waiting =>
      exact ⟨jobs, last, [], served, ended.symm, (List.append_nil _).symm, Or.inl ⟨rfl, rfl⟩⟩
  | finished | failed =>
      refine ⟨jobs, last, [.close], served, ended.symm, ?_, Or.inr rfl⟩
      rw [calls_append, calls_closeEntries]

end

/-- A run that is asked to stop, before it starts, while it waits, or during a job, and any number of
times, takes nothing more after the first request than the delivery whose job is in flight or that the
same wait hands over without a suspension.  That job, as any other, is carried to its outcome and
acknowledged; then the session is closed and the totals are those of the jobs, unless the very wait
in which a stop was asked for failed.  A request made during a job is told so, and no other is. -/
theorem run_stops_when_asked (dispatcher : Dispatcher state) (session : BrokerSession)
    (tree : FileTree) (engine : state) (requests : Nat) :
    let start : Bench state := ⟨tree, engine, StopSignal.requestTimes requests {}⟩
    let work := dispatcher.run session start
    ∃ jobs last, Serves dispatcher start session.turns jobs last work.bench ∧
      (session.turns.take jobs.length).map Turn.arrival =
        jobs.map (fun job => .delivery job.delivery) ∧
      acknowledgedTags work.journal = jobs.map (fun job => job.delivery.tag) ∧
      (∀ job ∈ jobs,
        let done := dispatcher.workOf job
        ∃ made, JobCourse dispatcher job.conditions job.start.tree job.delivery
            done.result.correlationId done.result.outcome made ∧
          ownCalls done.journal = made ++ [.acknowledge job.delivery.tag]) ∧
      (0 < requests → jobs = [] ∧ last = none ∧ .nextDelivery ∉ calls work.journal) ∧
      (calls work.journal).Pairwise OrderedAsked ∧
      (∀ front job back, jobs = front ++ job :: back →
        stopCalls (dispatcher.jobEntries job) ≠ [] → back = [] ∧ last = none) ∧
      (∀ front turn back, session.turns = front ++ turn :: back → SuspendsAsked turn →
        jobs.length ≤ front.length) ∧
      (0 < requests ∨ stopCalls work.journal ≠ [] →
        (∃ made, calls work.journal = made ++ [.close] ∧ .close ∉ made) ∧
        let totals := ({} : RunSummary).recordAll (dispatcher.reportsOf jobs)
        totals.processed = jobs.length ∧
          totals.processed = totals.rejected + totals.stagingFailed + totals.executed ∧
          (work.result = .finished totals ∨
            ∃ wait reason, last = some wait ∧ stopCalls (waitEntries wait) ≠ [] ∧
              wait.arrival = some (.failure reason) ∧ work.result = .failed reason)) ∧
      (∀ earlier ≤ requests, (StopSignal.requestTimes earlier {}).mode = .graceful) ∧
      (∀ job ∈ jobs, ToldAbout dispatcher job) ∧
      (∀ wait ∈ last, ∀ call ∈ stopCalls (waitEntries wait), call = .stopWhileWaiting .graceful) ∧
      work.bench.signal.mode = .graceful := by
  intro start work
  -- Closing the session adds one call, and it is neither an acknowledgment nor a stop request.
  obtain ⟨jobs, last, closing, served, result, tail, shut⟩ := run_serves dispatcher session start
  have idle : start.signal.busy = false := by simp [start, StopSignal.requestTimes_eq]
  have asked : start.signal.requested = true ↔ 0 < requests := by
    simp [start, StopSignal.requestTimes_eq]
  have stops : stopCalls work.journal =
      stopCalls (jobs.flatMap dispatcher.jobEntries ++ lastEntries last) := by
    unfold stopCalls
    rw [tail, List.filter_append]
    rcases shut with ⟨-, rfl⟩ | rfl <;> simp [Call.isStop]
  refine ⟨jobs, last, served, served.handed_over, ?_, ?_, ?_, ?_, ?_, ?_, ?_, ?_, ?_, ?_, ?_⟩
  · rw [← served.acknowledgedTags_eq]
    unfold acknowledgedTags
    rw [tail, List.filterMap_append]
    rcases shut with ⟨-, rfl⟩ | rfl <;> simp [Call.acknowledged?]
  · intro job _
    exact ⟨_, course_process dispatcher job.conditions job.start job.delivery, ownCalls_handle _ _ _ _⟩
  · intro early
    obtain ⟨rfl, rfl⟩ := served.nothing_of_asked (asked.mpr early)
    refine ⟨rfl, rfl, ?_⟩
    rw [tail]
    rcases shut with ⟨-, rfl⟩ | rfl <;> simp [lastEntries]
  · rw [tail, List.pairwise_append]
    refine ⟨served.orderedAsked, ?_, ?_⟩
    · rcases shut with ⟨-, rfl⟩ | rfl <;> simp
    · intro earlier _ later member _
      rcases shut with ⟨-, rfl⟩ | rfl
      · cases member
      · rw [List.mem_singleton.mp member]
        simp
  · intro front job back split stop
    exact served.last_of_asked split stop
  · intro front turn back split suspends
    exact served.unserved_of_suspended split suspends
  · intro stop
    rw [← asked, stops] at stop
    obtain ⟨processed, balanced, -⟩ := reports_processed dispatcher jobs
    have ending := served.ending_of_asked stop
      (({} : RunSummary).recordAll (dispatcher.reportsOf jobs))
    rw [← result] at ending
    refine ⟨⟨_, ?_, served.close_not_mem⟩, processed, balanced, ending⟩
    rcases shut with ⟨waiting, -⟩ | rfl
    · rcases ending with finished | ⟨_, _, _, _, _, failed⟩
      · exact RunEnding.noConfusion (waiting.symm.trans finished)
      · exact RunEnding.noConfusion (waiting.symm.trans failed)
    · exact tail
  · intro earlier _
    rw [StopSignal.mode_requestTimes]
    rfl
  · exact (served.told idle).1
  · exact (served.told idle).2
  · rw [StopSignal.mode, served.idle idle]
    rfl

end Stagehand.Dispatcher
