import Enip.Backoff
import Enip.Connection.Event
import Enip.Link.Binding

/-!
# Clients and connections

A `Client` is what stays the same: the binding, the settings and the backoff. A `Connection` is
what changes: the link if there is one, the frame buffer, and the device. What callers are told of
the link, whether one is open and which session it has, is kept beside the link and written apart
from it.
-/

namespace Enip

/-- How a device is talked to. -/
structure Client (ℓ δ : Type) where
  binding : Binding ℓ δ
  settings : Settings
  backoff : Backoff

/-- A connection to a device, with or without a link. -/
structure Connection (ℓ δ : Type) where
  /-- The handle by which the binding knows the link, if there is a link. -/
  link : Option ℓ
  /-- Whether a link is open, as callers are told. -/
  isOpen : Bool
  /-- The session on the link as callers are told, zero without one. -/
  session : SessionId
  buffer : FrameBuffer
  /-- How many random draws have been used. -/
  drawn : Nat
  /-- How long it was waited before each new attempt, in order. -/
  slept : List Duration
  /-- The device and all that lies before it. -/
  device : δ
  log : List Event

namespace Connection

variable {ℓ δ : Type}

/-- A connection to a device that no link has been opened to. -/
def start (device : δ) : Connection ℓ δ :=
  { link := none, isOpen := false, session := 0, buffer := .empty, drawn := 0,
    slept := [], device, log := [.created] }

/-- Reports an event. -/
def note (connection : Connection ℓ δ) (event : Event) : Connection ℓ δ :=
  { connection with log := connection.log ++ [event] }

/-- Uses a random draw. -/
def draw (connection : Connection ℓ δ) : Connection ℓ δ :=
  { connection with drawn := connection.drawn + 1 }

/-- Lets time pass, and nothing else happen. -/
def sleep (connection : Connection ℓ δ) (wait : Duration) : Connection ℓ δ :=
  { connection with slept := connection.slept ++ [wait] }

end Connection

end Enip
