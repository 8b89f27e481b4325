import Enip.Connection.State
import Enip.Request.Basic

/-!
# Sending and receiving frames

A frame is sent in one piece and received in as many as it comes in. `fillFrame` receives until
the reply is as long as its size says, which is asked anew over all that has come after every
piece. It ends because each piece takes some of the space there is: a full buffer is an error, as
is a piece of no bytes, which means that the device has closed the link.
-/

namespace Enip

variable {ℓ δ : Type}

/-- Receives pieces of a frame until it is whole. -/
def fillFrame (binding : Binding ℓ δ) (handle : ℓ) (replySize : Bytes → Nat)
    (buffer : FrameBuffer) (device : δ) : Except Error Unit × FrameBuffer × δ :=
  if buffer.spare = 0 then
    (.error (.frame (.replyTooLarge (replySize buffer.bytes) FrameBuffer.capacity)), buffer, device)
  else
    match _filled : buffer.fill (binding.receiver handle) device with
    | (.error fault, buffer, device) => (.error (.link fault), buffer, device)
    | (.ok claimed, longer, device) =>
      if claimed = 0 then
        (.error (.link (.endOfStream longer.size (replySize longer.bytes))), longer, device)
      else if replySize longer.bytes ≤ longer.size then (.ok (), longer, device)
      else fillFrame binding handle replySize longer device
termination_by buffer.spare
decreasing_by
  exact FrameBuffer.spare_lt_of_fill (by assumption) (by assumption) (by assumption)

namespace Client

variable {α ρ : Type} [Request α ρ]

/-- Writes a request into the buffer and sends it over a link. -/
def transmit (client : Client ℓ δ) (handle : ℓ) (request : α) (connection : Connection ℓ δ) :
    Except Error Unit × Connection ℓ δ :=
  match Request.encode request connection.buffer.clear with
  | (.error fault, buffer) => (.error (.frame fault), { connection with buffer })
  | (.ok (), buffer) =>
    let connection := { connection with buffer }.note (.sent buffer.bytes)
    match client.binding.send handle buffer.bytes connection.device with
    | (.error fault, device) => (.error (.link fault), { connection with device })
    | (.ok (), device) => (.ok (), { connection with device })

/-- Receives the reply to a request over a link and reads it. -/
def receive (client : Client ℓ δ) (handle : ℓ) (request : α) (connection : Connection ℓ δ) :
    Except Error ρ × Connection ℓ δ :=
  match fillFrame client.binding handle (Request.replySize request) connection.buffer.clear
      connection.device with
  | (.error error, buffer, device) => (.error error, { connection with buffer, device })
  | (.ok (), buffer, device) =>
    let connection := { connection with buffer, device }.note (.received buffer.bytes)
    ((Request.decode request buffer.bytes).mapError .frame, connection)

/-- Sends a request over a link and receives its reply. -/
def exchange (client : Client ℓ δ) (handle : ℓ) (request : α) (connection : Connection ℓ δ) :
    Except Error ρ × Connection ℓ δ :=
  match client.transmit handle request connection with
  | (.error error, connection) => (.error error, connection)
  | (.ok (), connection) => client.receive handle request connection

end Client

end Enip
