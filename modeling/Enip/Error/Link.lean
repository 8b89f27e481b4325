import Enip.Duration
import Enip.Error.Io

/-!
# Faults of a link

A `LinkError` says that a link to a device could not be opened or did not carry the bytes it
was given. These are the errors that a new attempt may cure, as opposed to a badly formed
frame. A blocking socket whose timeout expires reports either of two kinds; both become
`LinkError.timeout` (`LinkError.ofIo`).
-/

namespace Enip

/-- Why a link could not be opened or did not do its work. -/
inductive LinkError where
  /-- The address of the device stands for no socket address. -/
  | unresolved (address : String)
  | unreachable (address : String) (cause : IoError)
  | timeout (after : Duration)
  /-- The device closed the link before the whole message had come. -/
  | endOfStream (received expected : Nat)
  | notConnected
  | io (cause : IoError)
deriving DecidableEq

namespace LinkError

/-- The fault of a socket operation that was allowed to take `after`. -/
def ofIo (cause : IoError) (after : Duration) : LinkError :=
  if cause.kind = .wouldBlock ∨ cause.kind = .timedOut then timeout after else io cause

/-- The fault in words. -/
def message : LinkError → String
  | unresolved address => s!"could not resolve device address {address}"
  | unreachable address cause => s!"failed to connect to {address}: {cause.text}"
  | timeout after => s!"timed out after {after.text}"
  | endOfStream received expected => s!"end of stream after {received} of {expected} bytes"
  | notConnected => "not connected"
  | io cause => s!"I/O error: {cause.text}"

/-- The report of the operating system behind the fault, if there is one. -/
def cause? : LinkError → Option IoError
  | unreachable _ cause => some cause
  | io cause => some cause
  | _ => none

end LinkError

end Enip
