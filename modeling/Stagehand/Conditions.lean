import Stagehand.Broker.Error
import Stagehand.Duration
import Stagehand.Staging.Medium

/-! # What a job meets

How long things take, which writes are refused, and what the broker says to an acknowledgment is not up
to the dispatcher.  All of it may be different for every job.
-/

set_option autoImplicit false

namespace Stagehand

/-- How long things take in a job, as a clock beside the program shows it: each download by its key,
each workflow by its name, and the whole. -/
structure Stopwatch where
  downloads : String → Duration
  workflows : String → Duration
  job : Duration

/-- The stopwatch that nobody started. -/
def Stopwatch.still : Stopwatch := ⟨fun _ => .zero, fun _ => .zero, .zero⟩

/-- What a job meets beside its delivery and what it finds. -/
structure Conditions where
  stopwatch : Stopwatch := .still
  medium : Medium := .sound
  /-- What the broker says to the acknowledgment. -/
  acknowledgment : Except BrokerError Unit := .ok ()

end Stagehand
