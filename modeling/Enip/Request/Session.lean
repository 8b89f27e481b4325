import Enip.Request.Encapsulated

/-!
# Beginning and ending a session

Over a byte stream a client registers before it asks for anything else, and the device answers
with the handle of a session. To end the session the client sends one more request, which the
device does not answer: it closes the link.
-/

namespace Enip

/-- The request for a session. Its reply is the handle of the session. -/
structure RegisterSession where

namespace RegisterSession

/-- The version of the encapsulation protocol that is asked for. -/
def version : UInt16 := 1

/-- The option flags that are asked for: none. -/
def options : UInt16 := 0

/-- The size of the payload, the version and the option flags. -/
def payloadSize : UInt16 := 4

/-- Writes the request: a header, the version and the option flags. -/
def encode (buffer : FrameBuffer) : FrameBuffer.Written :=
  (Header.request .registerSession payloadSize 0).encode buffer
    |>.andThen (·.putShort version)
    |>.andThen (·.putShort options)

/-- Reads the reply: a frame with the version asked for and a session other than zero. -/
def decode (data : Bytes) : Except FrameError SessionId := do
  let (header, payload) ← Reply.split data .registerSession
  let some (answered, payload) := Bytes.readNat? 2 payload
    | throw (.truncated (Header.size + payloadSize.toNat) data.length)
  let some (_, payload) := Bytes.readNat? 2 payload
    | throw (.truncated (Header.size + payloadSize.toNat) data.length)
  if payload ≠ [] then
    throw (.malformed "oversized register session reply")
  if answered ≠ version.toNat then
    throw (.malformed "protocol version mismatch in register reply")
  if header.session = 0 then
    throw (.malformed "device assigned session 0")
  return header.session

instance : Request RegisterSession SessionId where
  encode _ := encode
  replySize _ := frameSize
  decode _ := decode

end RegisterSession

/-- The request that ends a session. -/
def unregisterSession (session : SessionId) : Encapsulated Unit :=
  { command := .unregisterSession, session, payload := () }

end Enip
