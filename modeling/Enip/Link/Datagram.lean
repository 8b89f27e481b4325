import Enip.Address
import Enip.Link.Binding

/-!
# Links over datagrams

The binding that exchanges datagrams with the device, without a session. What is at the other
end is a `Datagram.Peer`, which answers each datagram with any number of datagrams. They wait in
the inbox of the socket until they are received, one at a time.

If the device has several addresses, the first is used. A datagram of which the system sends only
a part is a fault of the link.

A receive takes the next datagram that is not empty: an empty one carries nothing, and must not
be taken for the end of the link. What a datagram holds beyond the space offered is lost. If none
is waiting, the receive runs out of time. A receive that was interrupted is made again, and that is
not told apart from a longer one.
-/

namespace Enip

namespace Datagram

/-- What is at the other end of a datagram socket. -/
structure Peer (π : Type) where
  lookup : Lookup π
  connect : SocketAddress → π → Except IoError Unit × π
  /-- Takes a datagram: how many bytes of it were sent, and the datagrams that arrive in answer. -/
  take : Bytes → π → Except IoError (Nat × List Bytes) × π

/-- A network on which nothing can be reached, and no names are known. -/
def unrouted (report : IoError) : Peer Unit where
  lookup := .literal
  connect _ _ := (.error report, ())
  take _ _ := (.error report, ())

/-- A datagram socket, and what is at its other end. -/
structure Socket (π : Type) where
  /-- The datagrams that have arrived and were not received. -/
  inbox : List Bytes
  /-- The state of the other end. -/
  state : π

variable {π : Type}

/-- Connects a new socket to the device that the settings name. The link is known by its
timeout. -/
def dial (peer : Peer π) (settings : Settings) (socket : Socket π) :
    Except LinkError Duration × Socket π :=
  match settings.resolve peer.lookup socket.state with
  | (.error fault, state) => (.error fault, { socket with state })
  | (.ok (address, _), state) =>
    match peer.connect address state with
    | (.error report, state) => (.error (.unreachable settings.endpoint report), ⟨[], state⟩)
    | (.ok (), state) => (.ok settings.timeout, ⟨[], state⟩)

/-- What is reported of a datagram that was not sent whole. -/
def truncated (sent size : Nat) : IoError :=
  ⟨.writeZero, s!"datagram truncated to {sent} of {size} bytes"⟩

/-- Sends one datagram. -/
def send (peer : Peer π) (timeout : Duration) (bytes : Bytes) (socket : Socket π) :
    Except LinkError Unit × Socket π :=
  match peer.take bytes socket.state with
  | (.error report, state) => (.error (.ofIo report timeout), { socket with state })
  | (.ok (sent, arriving), state) =>
    (if sent = bytes.length then .ok () else .error (.io (truncated sent bytes.length)),
      ⟨socket.inbox ++ arriving, state⟩)

/-- The part of the next datagram for which there is space, and the datagrams after it. Empty ones
are passed over if there is space for anything. -/
def next? (space : Nat) : List Bytes → Option (Bytes × List Bytes)
  | [] => none
  | datagram :: inbox =>
    if datagram = [] ∧ space ≠ 0 then next? space inbox
    else some (datagram.take space, inbox)

/-- Receives the next datagram. -/
def receive (timeout : Duration) (space : Bytes) (socket : Socket π) :
    Except LinkError Delivery × Socket π :=
  match next? space.length socket.inbox with
  | none => (.error (.timeout timeout), { socket with inbox := [] })
  | some (bytes, inbox) => (.ok ⟨bytes, bytes.length⟩, { socket with inbox })

/-- Links over datagrams, without a session. Giving one up needs nothing. -/
def binding (peer : Peer π) : Binding Duration (Socket π) where
  handshake := false
  dial := dial peer
  send := send peer
  receive := receive
  shutdown _ socket := (.ok (), socket)

end Datagram

end Enip
