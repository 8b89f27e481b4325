import Enip.Request.Basic

/-!
# Encapsulated requests

The ordinary request: a command, the session it is sent in, a context, and a payload. Its reply
has to echo the command and, if the request names a session, to belong to it.
-/

namespace Enip

/-- A request in an encapsulation frame. -/
structure Encapsulated (π : Type) where
  command : Command
  /-- The session in which it is asked, zero for none. -/
  session : SessionId
  /-- Bytes that come back with the reply. -/
  context : Context := Context.zero
  payload : π

namespace Encapsulated

variable {π ρ : Type} [Payload π ρ]

/-- The header of the request, for a payload of `length` bytes. -/
def header (request : Encapsulated π) (length : UInt16) : Header :=
  { Header.request request.command length request.session with context := request.context }

/-- Writes the request. A payload whose size has no place in the length field counts as one that
does not fit, and nothing is written of it. -/
def encode (request : Encapsulated π) (buffer : FrameBuffer) : FrameBuffer.Written :=
  let size := Payload.size request.payload
  if size ≤ 65535 then
    ((request.header (.ofNat size)).encode buffer).andThen (Payload.encode request.payload)
  else
    (.error (.overflow FrameBuffer.capacity (Header.size + size)), buffer)

/-- Reads the reply to the request. -/
def decode (request : Encapsulated π) (data : Bytes) : Except FrameError ρ := do
  let (header, payload) ← Reply.split data request.command
  if request.session ≠ 0 ∧ header.session ≠ request.session then
    throw (.sessionMismatch request.session header.session)
  Payload.decode request.payload payload

instance : Request (Encapsulated π) ρ where
  encode := encode
  replySize _ := frameSize
  decode := decode
  rebind session request := { request with session }

end Encapsulated

end Enip
