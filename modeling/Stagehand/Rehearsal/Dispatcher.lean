import Stagehand.Job.Run
import Stagehand.Rehearsal.Store

/-! # A dispatcher for rehearsals

The dispatcher works in one directory of an otherwise empty tree, with a scripted store and a parser
that has one wording for all that it cannot read.
-/

set_option autoImplicit false

namespace Stagehand.Rehearsal

variable {state : Type}

/-- The tree with nothing but the working directory. -/
def stage : FileTree := { nodes := [(["w"], .directory)] }

/-- A dispatcher in that directory. -/
def dispatcher (store : ScriptedStore) (engine : Engine state) : Dispatcher state where
  settings := ⟨⟨"/w"⟩, store.bucket, false⟩
  store := store.toStore
  engine := engine
  wording := fun _ => "not the members of a request"

/-- A delivery that asks for one workflow on a payload. -/
def delivery (tag : UInt64) (correlationId payloadId workflow : String) : Delivery where
  tag := tag
  correlationId := some correlationId
  appId := none
  routingKey := "jobs"
  body := Text.encode
    ("\x7b\"payload_id\":\"" ++ payloadId ++ "\",\"workflows\":[\"" ++ workflow ++ "\"]\x7d")

/-- A delivery under the id `a` with this body. -/
def deliveryOf (body : String) : Delivery where
  tag := 1
  correlationId := some "a"
  appId := none
  routingKey := "jobs"
  body := Text.encode body

/-- Nothing is out of order but the acknowledgment. -/
def refusing (tag : UInt64) : Conditions where
  acknowledgment := .error (.acknowledging tag "refused")

/-- A session that hands out deliveries at once, and then refuses whatever it is told. -/
def session (deliveries : List Delivery) : BrokerSession where
  turns := deliveries.map fun delivery =>
    { arrival := .delivery delivery
      conditions := refusing delivery.tag }
  close := .error (.closing "refused")

end Stagehand.Rehearsal
