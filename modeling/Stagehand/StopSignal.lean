import Stagehand.Journal.Entry

/-! # Asking the dispatcher to stop

A stop request is remembered until the dispatcher waits for its next delivery.  Whoever asks is told
whether a job was in flight.
-/

set_option autoImplicit false

namespace Stagehand

/-- Whether a stop was asked for, and whether a job is in flight. -/
structure StopSignal where
  requested : Bool := false
  busy : Bool := false
deriving DecidableEq, Inhabited, Repr

namespace StopSignal

/-- What a request would be told now. -/
def mode (signal : StopSignal) : StopMode :=
  if signal.busy then .abrupt else .graceful

def request (signal : StopSignal) : StopSignal :=
  { signal with requested := true }

def jobStarted (signal : StopSignal) : StopSignal :=
  { signal with busy := true }

def jobFinished (signal : StopSignal) : StopSignal :=
  { signal with busy := false }

/-- A stop asked for several times. -/
def requestTimes : Nat → StopSignal → StopSignal
  | 0, signal => signal
  | times + 1, signal => requestTimes times signal.request

theorem mode_request (signal : StopSignal) : signal.request.mode = signal.mode := rfl

theorem mode_requestTimes (times : Nat) (signal : StopSignal) :
    (requestTimes times signal).mode = signal.mode := by
  induction times generalizing signal with
  | zero => rfl
  | succ times ih => rw [requestTimes, ih, mode_request]

end StopSignal
end Stagehand
