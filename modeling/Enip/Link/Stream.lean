import Enip.Address
import Enip.Link.Binding

/-!
# Links over a byte stream

The binding that opens a byte stream to the device and registers a session on it. What the
operating system does with the stream is a `Stream.Peer`; the binding turns its reports into
faults of the link. If a device has several addresses, they are tried in turn. A system call that
was interrupted is made again, and that is not told apart from a longer one. A stream that the
device has already let go of counts as given up in good order, for a device does just that at the
end of a session.
-/

namespace Enip

namespace Stream

/-- What the operating system does with one byte stream. -/
structure Peer (π : Type) where
  lookup : Lookup π
  connect : SocketAddress → Duration → π → Except IoError Unit × π
  write : Bytes → π → Except IoError Unit × π
  /-- Reads at most so many bytes, and none only at the end of the stream. -/
  read : Nat → π → Except IoError Bytes × π
  shutdown : π → Except IoError Unit × π

/-- A network on which nothing can be reached, and no names are known. -/
def unrouted (report : IoError) : Peer Unit where
  lookup := .literal
  connect _ _ _ := (.error report, ())
  write _ _ := (.error report, ())
  read _ _ := (.error report, ())
  shutdown _ := (.error report, ())

variable {π : Type}

/-- Opens a stream to the first of these addresses that takes one. If none does, the report on the
last is given, and `report` if there are no addresses. -/
def connectAny (peer : Peer π) (timeout : Duration) (report : IoError) :
    List SocketAddress → π → Except IoError Unit × π
  | [], state => (.error report, state)
  | address :: others, state =>
    match peer.connect address timeout state with
    | (.error report, state) => connectAny peer timeout report others state
    | (.ok (), state) => (.ok (), state)

/-- Opens a stream to the device that the settings name. The link is known by its timeout. -/
def dial (peer : Peer π) (settings : Settings) (state : π) : Except LinkError Duration × π :=
  match settings.resolve peer.lookup state with
  | (.error fault, state) => (.error fault, state)
  | (.ok (first, others), state) =>
    match connectAny peer settings.timeout IoKind.addressNotAvailable.error (first :: others)
        state with
    | (.error report, state) => (.error (.unreachable settings.endpoint report), state)
    | (.ok (), state) => (.ok settings.timeout, state)

/-- Sends bytes over the stream. -/
def send (peer : Peer π) (timeout : Duration) (bytes : Bytes) (state : π) :
    Except LinkError Unit × π :=
  let (sent, state) := peer.write bytes state
  (sent.mapError (.ofIo · timeout), state)

/-- Receives what the stream has, as much as there is space for. -/
def receive (peer : Peer π) (timeout : Duration) (space : Bytes) (state : π) :
    Except LinkError Delivery × π :=
  match peer.read space.length state with
  | (.error report, state) => (.error (.ofIo report timeout), state)
  | (.ok bytes, state) => (.ok ⟨bytes, bytes.length⟩, state)

/-- Gives the stream up. -/
def shutdown (peer : Peer π) (state : π) : Except LinkError Unit × π :=
  match peer.shutdown state with
  | (.error report, state) =>
    (if report.kind = .notConnected then .ok () else .error (.io report), state)
  | (.ok (), state) => (.ok (), state)

/-- Links over a byte stream, with a session on each. -/
def binding (peer : Peer π) : Binding Duration π where
  handshake := true
  dial := dial peer
  send := send peer
  receive := receive peer
  shutdown _ := shutdown peer

end Stream

end Enip
