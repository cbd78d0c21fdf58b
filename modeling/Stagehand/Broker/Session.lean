import Stagehand.Conditions
import Stagehand.Journal.Entry
import Stagehand.Request.Basic

/-! # Broker sessions

A session hands out deliveries one at a time, takes an acknowledgment for each, and is closed in the
end.  While a delivery is awaited the session may be suspended any number of times, and stop requests
may come in between; these are the moments at which a wait can be given up.  A session is told turn by
turn, so nothing that happens in one turn is bound to happen again in another, not even to a delivery
with the same tag.
-/

set_option autoImplicit false

namespace Stagehand

inductive WaitStep where
  | stopRequest
  | suspension
deriving DecidableEq, Inhabited, Repr

inductive Arrival where
  | delivery (delivery : Delivery)
  | subscriptionEnd
  | failure (reason : BrokerError)
  | never
deriving DecidableEq, Inhabited, Repr

/-- One wait for a delivery, from its start to its end, and what the job meets that comes of it. -/
structure Turn where
  steps : List WaitStep := []
  arrival : Arrival
  conditions : Conditions := {}

/-- A session, by what it does when it is asked.  After its last turn the subscription has ended. -/
structure BrokerSession where
  turns : List Turn
  close : Except BrokerError Unit

/-- An acknowledgment sent once, whatever the broker says to it: whether it was taken, and the
journal. -/
def acknowledgeOnce (answer : Except BrokerError Unit) (tag : UInt64) : Bool × List Entry :=
  match answer with
  | .ok () => (true, [.call (.acknowledge tag), .log (.acknowledgmentSent tag)])
  | .error reason =>
      (false, [.call (.acknowledge tag), .log (.acknowledgmentFailed tag reason.message)])

end Stagehand
