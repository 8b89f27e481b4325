import Enip.Request.Session

/-!
# Requests of a rehearsal

A rehearsal runs a connection against a device that follows a script. Its requests are the ones
of the library and two kinds made to measure: a payload that declares one size and writes
another (`Declared`), and a request whose bytes, reply size and verdict are all laid down
(`Custom`). `Rehearsal.Request` is any of them, and answers with a `Reply`.
-/

namespace Enip.Rehearsal

/-- How the bytes of a reply are taken. -/
inductive Verdict where
  | accept
  | reject (reason : String)

/-- The bytes of a reply, unless they are rejected. -/
def Verdict.apply : Verdict → Bytes → Except FrameError Bytes
  | accept, data => .ok data
  | reject reason, _ => .error (.malformed reason)

/-- A payload that writes the same bytes whatever size it declares. -/
structure Declared where
  size : Nat
  bytes : Bytes
  verdict : Verdict

instance : Payload Declared Bytes where
  size payload := payload.size
  encode payload buffer := buffer.put payload.bytes
  decode payload := payload.verdict.apply

/-- How a made-up request sizes its reply. -/
inductive Sizing where
  | fixed (size : Nat)
  | frame
  /-- Always one byte more than there are. -/
  | oneMore
  /-- One more than the first byte says. -/
  | firstByte

/-- The size of the whole reply, from the bytes received so far. -/
def Sizing.size : Sizing → Bytes → Nat
  | fixed size, _ => size
  | frame, received => frameSize received
  | oneMore, received => received.length + 1
  | firstByte, received => 1 + (received.head?.map UInt8.toNat).getD 0

/-- A made-up request. -/
structure Custom where
  bytes : Bytes
  /-- What it fails with after it has written them, if it fails. -/
  failure : Option FrameError
  sizing : Sizing
  verdict : Verdict
  /-- The session it belongs to, if it keeps one. -/
  session : Option SessionId

/-- Writes a made-up request. -/
def Custom.encode (request : Custom) (buffer : FrameBuffer) : FrameBuffer.Written :=
  (buffer.put request.bytes).andThen fun buffer =>
    match request.failure with
    | none => (.ok (), buffer)
    | some fault => (.error fault, buffer)

instance : Enip.Request Custom Bytes where
  encode := Custom.encode
  replySize request := request.sizing.size
  decode request := request.verdict.apply
  rebind session request := { request with session := request.session.map fun _ => session }

/-- Any request of a rehearsal. -/
inductive Request where
  | bytes (request : Encapsulated Bytes)
  | bare (request : Encapsulated Unit)
  | declared (request : Encapsulated Declared)
  | register (request : RegisterSession)
  | custom (request : Custom)

/-- Any reply of a rehearsal. -/
inductive Reply where
  | nothing
  | session (session : SessionId)
  | bytes (bytes : Bytes)

namespace Request

/-- Writes the request. -/
def encode : Request → FrameBuffer → FrameBuffer.Written
  | bytes request => Enip.Request.encode request
  | bare request => Enip.Request.encode request
  | declared request => Enip.Request.encode request
  | register request => Enip.Request.encode request
  | custom request => Enip.Request.encode request

/-- The size of the whole reply, from the bytes received so far. -/
def replySize : Request → Bytes → Nat
  | bytes request => Enip.Request.replySize request
  | bare request => Enip.Request.replySize request
  | declared request => Enip.Request.replySize request
  | register request => Enip.Request.replySize request
  | custom request => Enip.Request.replySize request

/-- Reads the reply. -/
def decode : Request → Bytes → Except FrameError Reply
  | bytes request, data => (Enip.Request.decode request data).map .bytes
  | bare request, data => (Enip.Request.decode request data).map fun _ => .nothing
  | declared request, data => (Enip.Request.decode request data).map .bytes
  | register request, data => (Enip.Request.decode request data).map .session
  | custom request, data => (Enip.Request.decode request data).map .bytes

/-- Moves the request to a session, if it carries one. -/
def rebind (session : SessionId) : Request → Request
  | bytes request => bytes (Enip.Request.rebind session request)
  | bare request => bare (Enip.Request.rebind session request)
  | declared request => declared (Enip.Request.rebind session request)
  | register request => register (Enip.Request.rebind session request)
  | custom request => custom (Enip.Request.rebind session request)

instance : Enip.Request Request Reply where
  encode := encode
  replySize := replySize
  decode := decode
  rebind := rebind

/-- The session that the request carries, if it carries one. -/
def session? : Request → Option SessionId
  | bytes request => some request.session
  | bare request => some request.session
  | declared request => some request.session
  | register _ => none
  | custom request => request.session

/-- The request with another context, if it has one. -/
def withContext (context : Context) : Request → Request
  | bytes request => bytes { request with context }
  | bare request => bare { request with context }
  | declared request => declared { request with context }
  | register request => register request
  | custom request => custom request

end Request

end Enip.Rehearsal
