import Stagehand.Job.Handle

/-! # Taking deliveries until the end

A run takes one delivery after the other and finishes each before it waits for the next.  It ends
when the subscription ends, when a stop was asked for, or when the broker fails, and then closes the
session.  A stop request counts only while the dispatcher waits: a delivery that arrives without a
suspension is still taken, and a job in flight is carried to its end.
-/

set_option autoImplicit false

namespace Stagehand

inductive RunEnding where
  | finished (summary : RunSummary)
  | failed (reason : BrokerError)
  /-- It has not: it waits for a delivery that never comes. -/
  | waiting
deriving DecidableEq, Inhabited, Repr

/-- A wait for a delivery: the stop signal after it, its journal, and what came of it; nothing if a
stop request ended it. -/
structure Wait where
  signal : StopSignal
  journal : List Entry
  arrival : Option Arrival
deriving Inhabited, Repr

def Wait.follow (signal : StopSignal) (arrival : Arrival) : List WaitStep → Wait
  | [] =>
      { signal := signal
        journal := []
        arrival := if arrival = .never ∧ signal.requested = true then none else some arrival }
  | .stopRequest :: rest =>
      let later := follow signal.request arrival rest
      { later with journal := .call (.stopWhileWaiting signal.mode) :: later.journal }
  | .suspension :: rest =>
      if signal.requested then ⟨signal, [], none⟩ else follow signal arrival rest

abbrev RunWork (state : Type) := BenchWork state RunEnding

namespace Dispatcher

variable {state : Type}

/-- The journal of the last steps before a run ends by itself, with its ending. -/
def stopping (bench : Bench state) (message : Message) (summary : RunSummary) : RunWork state :=
  ⟨bench, [.log message], .finished summary⟩

def precededBy (entries : List Entry) (work : RunWork state) : RunWork state :=
  { work with journal := entries ++ work.journal }

/-- Deliveries taken turn by turn, on top of what was counted before. -/
def consume (dispatcher : Dispatcher state) :
    Bench state → RunSummary → List Turn → RunWork state
  | bench, summary, [] =>
      if bench.signal.requested then stopping bench .stopRequested summary
      else
        precededBy [.log .waitingForDeliveries, .call .nextDelivery]
          (stopping bench .subscriptionEnded summary)
  | bench, summary, turn :: turns =>
      if bench.signal.requested then stopping bench .stopRequested summary
      else
        let wait := Wait.follow bench.signal turn.arrival turn.steps
        let waited : Bench state := { bench with signal := wait.signal }
        precededBy ([.log .waitingForDeliveries, .call .nextDelivery] ++ wait.journal)
          (match wait.arrival with
          | none => stopping waited .stopRequested summary
          | some .subscriptionEnd => stopping waited .subscriptionEnded summary
          | some (.failure reason) => ⟨waited, [], .failed reason⟩
          | some .never => ⟨waited, [], .waiting⟩
          | some (.delivery delivery) =>
              let busy : Bench state := { waited with signal := waited.signal.jobStarted }
              let job := dispatcher.handle turn.conditions busy delivery
              let idle : Bench state := { job.bench with signal := job.bench.signal.jobFinished }
              precededBy job.journal
                (consume dispatcher idle (summary.record job.result) turns))

def closeEntries (close : Except BrokerError Unit) : List Entry :=
  match close with
  | .ok () => [.call .close]
  | .error reason => [.call .close, .log (.closeFailed reason.message)]

/-- A whole run over a session. -/
def run (dispatcher : Dispatcher state) (session : BrokerSession) (bench : Bench state) :
    RunWork state :=
  let work := dispatcher.consume bench {} session.turns
  match work.result with
  | .waiting => work
  | _ => { work with journal := work.journal ++ closeEntries session.close }

end Dispatcher
end Stagehand
