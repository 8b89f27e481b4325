import Enip.Frame.Header

/-!
# Requests

A connection knows nothing of what it carries. A `Request` is anything that can be written into
the frame buffer, can say how long its reply is to be from the bytes that have come so far, and
can read that reply. A request that belongs to a session can be moved to another one.
-/

namespace Enip

/-- What a connection can send, with replies of type `ρ`. -/
class Request (α : Type) (ρ : outParam Type) where
  encode : α → FrameBuffer → FrameBuffer.Written
  /-- The size of the whole reply, as far as the bytes received so far tell. Where they do not, it
  is more than there are. -/
  replySize : α → Bytes → Nat
  decode : α → Bytes → Except FrameError ρ
  /-- Moves the request to a session. One that carries no session stays as it is. -/
  rebind : SessionId → α → α := fun _ request => request

/-- What an encapsulation frame carries after its header, with replies of type `ρ`. -/
class Payload (π : Type) (ρ : outParam Type) where
  size : π → Nat
  encode : π → FrameBuffer → FrameBuffer.Written
  decode : π → Bytes → Except FrameError ρ

/-- No payload. Whatever payload the reply has is ignored. -/
instance : Payload Unit Unit where
  size _ := 0
  encode _ buffer := (.ok (), buffer)
  decode _ _ := .ok ()

/-- Bytes as they are, in the request and in the reply. -/
instance : Payload Bytes Bytes where
  size payload := payload.length
  encode payload buffer := buffer.put payload
  decode _ payload := .ok payload

end Enip
