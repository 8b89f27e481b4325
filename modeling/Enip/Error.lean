import Enip.Error.Link
import Enip.Error.Frame

/-!
# Errors of a connection

What an operation on a connection can fail with: a fault of the link, a fault of a frame, or
link faults in every attempt that was allowed. Only the first kind may be tried again
(`Error.retryable`).
-/

namespace Enip

/-- Why an operation on a connection failed. -/
inductive Error where
  | link (fault : LinkError)
  | frame (fault : FrameError)
  /-- The link failed in each of so many attempts, the last time with this fault. -/
  | exhausted (attempts : Nat) (last : LinkError)
deriving DecidableEq

namespace Error

/-- The error in words. -/
def message : Error → String
  | link fault => fault.message
  | frame fault => fault.message
  | exhausted attempts _ => s!"failed to execute {attempts} times"

/-- The causes behind an error in words, the nearest first. -/
def sources : Error → List String
  | link fault => fault.cause?.toList.map IoError.text
  | frame _ => []
  | exhausted _ last => last.message :: last.cause?.toList.map IoError.text

/-- Whether a new attempt may cure the error. -/
def retryable : Error → Bool
  | link _ => true
  | _ => false

end Error

end Enip
