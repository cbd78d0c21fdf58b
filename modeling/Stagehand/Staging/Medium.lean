import Stagehand.Store.Basic
import Stagehand.SystemError

/-! # Writing what is downloaded

The chunks of a download are written to an open file one by one, and the file is flushed after the
last.  A medium can refuse a write at any time, and its refusal may show only at a later chunk, or
not before the flush.  The flush is not reached when the download breaks off, and then such a refusal
is never heard of; the file is short all the same.
-/

set_option autoImplicit false

namespace Stagehand

/-- A refusal to write: after how many chunks it shows, how many bytes the file keeps, and why. -/
structure WriteFault where
  taken : Nat
  kept : Nat
  reason : SystemError
deriving DecidableEq, Inhabited, Repr

namespace WriteFault

/-- The chunks that were asked for until the refusal showed. -/
def asked (fault : WriteFault) (download : Download) : List Bytes :=
  download.chunks.take (fault.taken + 1)

/-- What the file keeps of them. -/
def left (fault : WriteFault) (download : Download) : Bytes :=
  (fault.asked download).flatten.take fault.kept

/-- The refusal shows at a chunk, and does not wait for the flush. -/
def showsEarly (fault : WriteFault) (download : Download) : Bool :=
  fault.taken < download.chunks.length

end WriteFault

/-- Whether and how the chunks written to the file at a place are refused. -/
abbrev Medium := Location → List Bytes → Option WriteFault

namespace Medium

/-- A medium that takes everything. -/
def sound : Medium := fun _ _ => none

end Medium
end Stagehand
