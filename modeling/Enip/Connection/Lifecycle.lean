import Enip.Connection.Framing
import Enip.Request.Session

/-!
# Opening and closing

`Client.connect` opens a link and, where the binding asks for it, registers a session on it: the
connection gets the link only once both are done, and a link without a session is given up.
`Client.close` takes the link back, ends its session and gives it up. What goes wrong while a
link is given up is reported and otherwise of no account. `Client.finish` is the last thing done
with a connection: it closes the link if callers are told of one.
-/

namespace Enip.Client

variable {ℓ δ : Type}

/-- Gives a link up. -/
def release (client : Client ℓ δ) (handle : ℓ) (connection : Connection ℓ δ) : Connection ℓ δ :=
  match client.binding.shutdown handle connection.device with
  | (.error fault, device) => { connection with device }.note (.shutdownFailed fault)
  | (.ok (), device) => { connection with device }

/-- Makes a link the connection's own, after a session is registered on it where the binding asks
for one. -/
def adopt (client : Client ℓ δ) (handle : ℓ) (connection : Connection ℓ δ) :
    Except Error Unit × Connection ℓ δ :=
  if client.binding.handshake then
    match client.exchange handle RegisterSession.mk connection with
    | (.error error, connection) => (.error error, client.release handle connection)
    | (.ok session, connection) =>
      (.ok (), { connection.note (.registered session) with
        session, link := some handle, isOpen := true })
  else
    (.ok (), { connection with link := some handle, isOpen := true })

/-- Opens a link, if none is open. -/
def connect (client : Client ℓ δ) (connection : Connection ℓ δ) :
    Except Error Unit × Connection ℓ δ :=
  match connection.link with
  | some _ => (.ok (), connection)
  | none =>
    let connection := connection.note .connecting
    match client.binding.dial client.settings connection.device with
    | (.error fault, device) => (.error (.link fault), { connection with device })
    | (.ok handle, device) => client.adopt handle { connection with device }

/-- Ends a session on a link, if there is one. The device does not answer. -/
def endSession (client : Client ℓ δ) (handle : ℓ) (session : SessionId)
    (connection : Connection ℓ δ) : Connection ℓ δ :=
  if client.binding.handshake ∧ session ≠ 0 then
    match client.transmit handle (unregisterSession session) connection with
    | (.error error, connection) => connection.note (.unregisterFailed session error)
    | (.ok (), connection) => connection
  else connection

/-- Closes the link, if there is one. -/
def close (client : Client ℓ δ) (connection : Connection ℓ δ) : Connection ℓ δ :=
  let session := connection.session
  let connection := { connection with session := 0, isOpen := false }
  match connection.link with
  | none => connection
  | some handle =>
    (client.release handle
      (client.endSession handle session { connection with link := none })).note .closed

/-- Does the last thing that is done with a connection. -/
def finish (client : Client ℓ δ) (connection : Connection ℓ δ) : Connection ℓ δ :=
  if connection.isOpen then client.close connection else connection

end Enip.Client
