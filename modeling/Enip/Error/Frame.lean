import Enip.Frame.Command
import Enip.Frame.Status

/-!
# Faults of a frame

A `FrameError` says that a request does not fit in a frame, or that the bytes of a reply are
not the reply that was asked for. Asking again would not help.
-/

namespace Enip

/-- The handle by which a device knows a session. Zero means that there is none. -/
abbrev SessionId := UInt32

/-- Why a frame could not be written or is not an acceptable reply. -/
inductive FrameError where
  /-- The request does not fit in the frame buffer. -/
  | overflow (capacity requested : Nat)
  | replyTooLarge (size capacity : Nat)
  | truncated (expected actual : Nat)
  /-- There are more bytes than the frame announces. -/
  | trailing (expected actual : Nat)
  | unexpectedCommand (expected actual : Command)
  | unknownCommand (code : UInt16)
  | refused (status : Status)
  | sessionMismatch (expected actual : SessionId)
  | malformed (reason : String)
deriving DecidableEq

/-- The fault in words. -/
def FrameError.message : FrameError → String
  | overflow capacity requested =>
    s!"request needs {requested} bytes but the buffer holds {capacity}"
  | replyTooLarge size capacity => s!"response of {size} bytes exceeds buffer capacity {capacity}"
  | truncated expected actual => s!"response truncated: expected {expected} bytes, got {actual}"
  | trailing expected actual =>
    s!"unexpected trailing bytes: expected {expected} bytes, got {actual}"
  | unexpectedCommand expected actual =>
    s!"expected reply to {expected.name}, got {actual.name}"
  | unknownCommand code => "unknown encapsulation command " ++ Hex.shown 4 code.toNat
  | refused status => s!"device returned status {status.text}"
  | sessionMismatch expected actual =>
    "session mismatch: expected " ++ Hex.shown 8 expected.toNat ++ ", got " ++
      Hex.shown 8 actual.toNat
  | malformed reason => s!"malformed response: {reason}"

end Enip
