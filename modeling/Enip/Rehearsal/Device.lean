import Enip.Link.Binding

/-!
# The device of a rehearsal

A device that follows a script. It takes links, answers each frame by the next entry of its
script, delivers the answers piece by piece, and fails where the script says so. All links share
its state, which also counts what was done with it.

Frames are told apart by their command. A request for a session is answered from a script of its
own and, when that has run out, by a register reply; the end of a session is not answered.
-/

namespace Enip.Rehearsal

/-- Something that a receive meets. -/
inductive Item where
  /-- Bytes. What a receive has no space for is left for the next one. -/
  | bytes (bytes : Bytes)
  /-- Bytes, of which the receiver is told a number of its own. What has no space is lost. -/
  | claim (claimed : Nat) (bytes : Bytes)
  | fault (fault : LinkError)

/-- A frame made from the request that it answers, with a payload of its own. A field that is given
stands in place of that of the request, and `length` in place of the size of the payload. -/
structure Echo where
  payload : Bytes
  length : Option Nat
  command : Option Nat
  session : Option Nat
  status : Option Nat
  /-- How many bytes of the frame are delivered, if not all. -/
  keep : Option Nat
  /-- The size of the pieces in which it is delivered, if not in one piece. -/
  chunk : Option Nat

namespace Echo

/-- A register reply with a session. -/
def register (session : SessionId) : Echo :=
  { payload := [1, 0, 0, 0], length := none, command := none, session := some session.toNat,
    status := none, keep := none, chunk := none }

/-- Replaces bytes by a number of the given width, if there is one. -/
def replace (width : Nat) (value : Option Nat) (bytes : Bytes) : Bytes :=
  (value.map (Bytes.littleEndian width)).getD bytes

/-- The bytes that are delivered in answer to a request. -/
def frame (echo : Echo) (request : Bytes) : Bytes :=
  let header := request.take 24 ++ List.replicate (24 - request.length) 0
  let length := echo.length.getD echo.payload.length
  let bytes :=
    replace 2 echo.command (header.take 2) ++ Bytes.littleEndian 2 length ++
      replace 4 echo.session ((header.drop 4).take 4) ++
      replace 4 echo.status ((header.drop 8).take 4) ++ header.drop 12 ++ echo.payload
  bytes.take (echo.keep.getD bytes.length)

/-- Bytes in pieces of a given size. There is no empty piece. -/
def pieces (size : Nat) (bytes : Bytes) : List Bytes :=
  if bytes = [] then [] else
    bytes.take (size - 1 + 1) :: pieces size (bytes.drop (size - 1 + 1))
termination_by bytes.length
decreasing_by
  have : bytes.length ≠ 0 := by simpa using ‹_›
  simp
  omega

/-- The frame as it is delivered, in pieces. -/
def items (echo : Echo) (request : Bytes) : List Item :=
  let frame := echo.frame request
  (pieces (echo.chunk.getD frame.length) frame).map .bytes

end Echo

/-- How a device answers a frame. -/
inductive Answer where
  /-- It takes so many bytes of the frame and fails. -/
  | fail (fault : LinkError) (taken : Nat)
  /-- It takes the frame and delivers an echo, if there is one, and then more. -/
  | deliver (echo : Option Echo) (more : List Item)

/-- A device that follows a script, and what was done with it. -/
structure Device where
  /-- How the next links fail to open, if they do. After that all open. -/
  opens : List (Option LinkError)
  /-- How the next requests for a session are answered. -/
  registers : List Answer
  /-- The sessions given out next, when no answer to a request for a session is left. -/
  sessions : List SessionId
  nextSession : SessionId
  /-- How the next frames of any other kind are answered. After that none is. -/
  replies : List Answer
  unregisterFault : Option LinkError
  shutdownFault : Option LinkError
  pending : List Item
  connects : Nat
  shutdowns : Nat
  sent : List Bytes

namespace Device

/-- The command code of a frame, if it has one. -/
def code? (frame : Bytes) : Option Nat := (Bytes.readNat? 2 frame).map Prod.fst

/-- Opens a link. What was to be received over the one before is lost. -/
def dial (device : Device) : Except LinkError Unit × Device :=
  let device := { device with connects := device.connects + 1, pending := [] }
  match device.opens with
  | [] => (.ok (), device)
  | none :: opens => (.ok (), { device with opens })
  | some fault :: opens => (.error fault, { device with opens })

/-- Answers a frame. -/
def follow (answer : Answer) (frame : Bytes) (device : Device) : Except LinkError Unit × Device :=
  match answer with
  | .fail fault taken =>
    (.error fault, { device with sent := device.sent ++ [frame.take taken] })
  | .deliver echo more =>
    let items := (echo.map fun echo => echo.items frame).getD [] ++ more
    (.ok (), { device with sent := device.sent ++ [frame], pending := device.pending ++ items })

/-- Answers a request for a session. -/
def register (frame : Bytes) (device : Device) : Except LinkError Unit × Device :=
  match device.registers with
  | answer :: registers => follow answer frame { device with registers }
  | [] =>
    match device.sessions with
    | session :: sessions =>
      follow (.deliver (some (.register session)) []) frame { device with sessions }
    | [] =>
      let session := device.nextSession
      follow (.deliver (some (.register session)) []) frame
        { device with nextSession := session + 1 }

/-- Takes the end of a session. -/
def unregister (frame : Bytes) (device : Device) : Except LinkError Unit × Device :=
  let device := { device with sent := device.sent ++ [frame] }
  match device.unregisterFault with
  | none => (.ok (), device)
  | some fault => (.error fault, device)

/-- Takes a frame. -/
def send (frame : Bytes) (device : Device) : Except LinkError Unit × Device :=
  if code? frame = some 0x65 then device.register frame
  else if code? frame = some 0x66 then device.unregister frame
  else match device.replies with
    | [] => follow (.deliver none []) frame device
    | answer :: replies => follow answer frame { device with replies }

/-- Lets the next item be received into a space. -/
def receive (space : Bytes) (device : Device) : Except LinkError Delivery × Device :=
  match device.pending with
  | [] => (.ok ⟨[], 0⟩, device)
  | .fault fault :: pending => (.error fault, { device with pending })
  | .claim claimed bytes :: pending =>
    (.ok ⟨bytes.take space.length, claimed⟩, { device with pending })
  | .bytes bytes :: pending =>
    let taken := bytes.take space.length
    let left := bytes.drop space.length
    (.ok ⟨taken, taken.length⟩,
      { device with pending := if left = [] then pending else .bytes left :: pending })

/-- Gives a link up. What was to be received over it is lost. -/
def shutdown (device : Device) : Except LinkError Unit × Device :=
  let device := { device with shutdowns := device.shutdowns + 1, pending := [] }
  match device.shutdownFault with
  | none => (.ok (), device)
  | some fault => (.error fault, device)

end Device

/-- Links to the device of a rehearsal, with or without a handshake. -/
def binding (handshake : Bool) : Binding Unit Device where
  handshake := handshake
  dial _ := Device.dial
  send _ := Device.send
  receive _ := Device.receive
  shutdown _ := Device.shutdown

end Enip.Rehearsal
