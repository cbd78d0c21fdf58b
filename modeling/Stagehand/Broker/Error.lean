/-! # Failures of the message broker -/

set_option autoImplicit false

namespace Stagehand

/-- Why a broker session did not do what it was asked. -/
inductive BrokerError where
  | connection (detail : String)
  | receiving (detail : String)
  | acknowledging (tag : UInt64) (reason : String)
  | closing (detail : String)
deriving DecidableEq, Inhabited, Repr

namespace BrokerError

/-- The failure in words. -/
def message : BrokerError → String
  | .connection detail => s!"Broker connection failed: {detail}"
  | .receiving detail => s!"Failed to receive delivery: {detail}"
  | .acknowledging tag reason => s!"Failed to acknowledge delivery {tag}: {reason}"
  | .closing detail => s!"Failed to close broker session: {detail}"

/-- A channel number that the connection does not have. -/
def invalidChannel (channel : Nat) : BrokerError :=
  .connection s!"invalid channel: {channel}"

end BrokerError
end Stagehand
