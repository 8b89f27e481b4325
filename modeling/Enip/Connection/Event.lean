import Enip.Error
import Enip.Frame.Dump
import Enip.Settings.Basic

/-!
# What a connection reports

Each thing worth telling that happens on a connection is an `Event`. It has a level, by which a
reader can choose, and a message.
-/

namespace Enip

/-- How urgent a report is. -/
inductive Level where
  | warn
  | info
  | debug
  | trace
deriving DecidableEq

/-- The name of a level. -/
def Level.name : Level → String
  | warn => "WARN"
  | info => "INFO"
  | debug => "DEBUG"
  | trace => "TRACE"

/-- Something that happened on a connection. -/
inductive Event where
  | created
  | connecting
  | registered (session : SessionId)
  | sent (frame : Bytes)
  | received (frame : Bytes)
  | attemptFailed (attempt : Nat) (fault : LinkError)
  /-- A new attempt is made after this wait. -/
  | retrying (wait : Duration) (fault : LinkError)
  /-- A reply made the link useless. -/
  | dropping (fault : FrameError)
  | unregisterFailed (session : SessionId) (error : Error)
  | shutdownFailed (fault : LinkError)
  | closed
deriving DecidableEq

namespace Event

/-- How urgent an event is. -/
def level : Event → Level
  | created => .info
  | connecting => .debug
  | registered _ => .info
  | sent _ => .trace
  | received _ => .trace
  | attemptFailed _ _ => .debug
  | retrying _ _ => .warn
  | dropping _ => .debug
  | unregisterFailed _ _ => .warn
  | shutdownFailed _ => .warn
  | closed => .debug

/-- A frame with its size and its dump. -/
def withDump (what : String) (frame : Bytes) : String :=
  what ++ " (" ++ toString frame.length ++ " bytes):\n" ++ Dump.text frame

/-- An event in words, on a connection with the given settings. -/
def message (settings : Settings) : Event → String
  | created => "Created connection to " ++ settings.endpoint ++ " (slot " ++
      toString settings.slot.toNat ++ ")"
  | connecting => "Connecting to " ++ settings.endpoint
  | registered session => "Registered session " ++ Hex.shown 8 session.toNat ++ " with " ++
      settings.endpoint
  | sent frame => withDump "Data sent" frame
  | received frame => withDump "Data read" frame
  | attemptFailed attempt fault => "Attempt " ++ toString attempt ++ "/" ++
      toString settings.attempts.toNat ++ " to " ++ settings.endpoint ++ " failed: " ++
      fault.message
  | retrying wait fault => "Retrying " ++ settings.endpoint ++ " in " ++ wait.text ++
      " after: " ++ fault.message
  | dropping fault => "Dropping link to " ++ settings.endpoint ++ " after " ++ fault.message
  | unregisterFailed session error => "Error un-registering session " ++
      Hex.shown 8 session.toNat ++ ": " ++ error.message
  | shutdownFailed fault => "Error shutting down link: " ++ fault.message
  | closed => "Closed connection to " ++ settings.endpoint

end Event

end Enip
