/-! # Elapsed time

A duration counts nanoseconds.  Its text uses the largest unit that it fills at least once, with as
many decimals as it needs; a log field holds its whole milliseconds in sixty-four bits.
-/

set_option autoImplicit false

namespace Stagehand

structure Duration where
  nanoseconds : Nat
deriving DecidableEq, Inhabited, Repr

namespace Duration

def zero : Duration := ⟨0⟩

def ofSeconds (seconds nanoseconds : Nat) : Duration :=
  ⟨seconds * 1000000000 + nanoseconds⟩

/-- The digits after the point: `fraction` in `places` digits, without the zeros at the end. -/
def decimals (fraction places : Nat) : List Char :=
  let digits := (toString fraction).toList
  let padded := List.replicate (places - digits.length) '0' ++ digits
  (padded.reverse.dropWhile (· = '0')).reverse

/-- A number of a unit that holds `10 ^ places` nanoseconds. -/
def inUnit (nanoseconds places : Nat) (unit : String) : String :=
  let whole := nanoseconds / Nat.pow 10 places
  let fraction := nanoseconds % Nat.pow 10 places
  if fraction = 0 then toString whole ++ unit
  else toString whole ++ "." ++ String.ofList (decimals fraction places) ++ unit

/-- The duration in seconds, milliseconds, microseconds or nanoseconds. -/
def text (duration : Duration) : String :=
  if 1000000000 ≤ duration.nanoseconds then inUnit duration.nanoseconds 9 "s"
  else if 1000000 ≤ duration.nanoseconds then inUnit duration.nanoseconds 6 "ms"
  else if 1000 ≤ duration.nanoseconds then inUnit duration.nanoseconds 3 "µs"
  else inUnit duration.nanoseconds 0 "ns"

/-- Whole milliseconds, as a log field holds them. -/
def milliseconds (duration : Duration) : UInt64 :=
  (duration.nanoseconds / 1000000).toUInt64

end Duration
end Stagehand
