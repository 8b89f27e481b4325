import Enip.Proofs.Arrivals
import Enip.Proofs.Attempts
import Enip.Proofs.Frames

/-!
# Devices that answer

A `Peer` is a device that answers each frame it gets with one whole frame or not at all. Nothing
else is settled: it may refuse links, fail to take frames whether or not it answers them, cut an
answer into pieces, put faults and ends of the stream between them, and leave off at any point.
What it has put on a link waits there, and nowhere else (`World`).

Receiving on a link takes from what waits there (`conserves_of_fills`), and a reply that was
received is a beginning of it as long as a frame (`Client.receive_settled`).
-/

namespace Enip

/-- An answer: a whole frame, and how it is delivered, in full or in part. -/
structure Answer where
  frame : Bytes
  whole : Whole frame
  arrivals : List Arrival
  begins : content arrivals <+: frame

/-- A device, with states of type `π`, that answers each frame at most once. -/
structure Peer (π : Type) where
  handshake : Bool
  dial : Settings → π → Except LinkError Unit × π
  /-- Takes a frame on a link, or fails to, and answers it or not. -/
  take : Nat → Bytes → π → Except LinkError Unit × Option Answer × π
  /-- What a receive meets when nothing waits on the link: a fault, or else the end. -/
  starve : Nat → π → Except LinkError Unit × π
  shutdown : Nat → π → Except LinkError Unit × π

/-- A frame that was sent on a link, and the answer it got. -/
structure Post where
  link : Nat
  frame : Bytes
  answer : Option Answer

/-- A device, the links to it, and all the frames it was sent. -/
structure World (π : Type) where
  peer : π
  /-- How many links were opened. -/
  opened : Nat
  /-- What waits on each link. -/
  queue : Nat → List Arrival
  posts : List Post

namespace World

variable {π : Type} (world : World π) (link : Nat) (arrivals : List Arrival)

/-- A device to which there is no link. -/
def start (peer : π) : World π := ⟨peer, 0, fun _ => [], []⟩

/-- Other arrivals wait on a link. -/
def put : World π :=
  { world with queue := fun other => if other = link then arrivals else world.queue other }

@[simp] theorem queue_put : (world.put link arrivals).queue link = arrivals := if_pos rfl

end World

/-- Links to a device that answers. They are known by their numbers. -/
def Peer.binding {π : Type} (peer : Peer π) : Binding Nat (World π) where
  handshake := peer.handshake
  dial settings world :=
    match peer.dial settings world.peer with
    | (.error fault, state) => (.error fault, { world with peer := state })
    | (.ok (), state) =>
      (.ok world.opened,
        { world.put world.opened [] with peer := state, opened := world.opened + 1 })
  send link frame world :=
    let (outcome, answer, state) := peer.take link frame world.peer
    let arrivals := (answer.map Answer.arrivals).getD []
    (outcome, { world.put link (world.queue link ++ arrivals) with
      peer := state, posts := world.posts ++ [⟨link, frame, answer⟩] })
  receive link space world :=
    match deliver space.length (world.queue link) with
    | some (outcome, later) => (outcome, world.put link later)
    | none =>
      let (outcome, state) := peer.starve link world.peer
      (outcome.map fun _ => ⟨[], 0⟩, { world with peer := state })
  shutdown link world :=
    let (outcome, state) := peer.shutdown link world.peer
    (outcome, { world with peer := state })

section

variable {π : Type} (peer : Peer π) (link : Nat) (world : World π)

/-- No frame is sent by opening a link, and nothing waits on a new one. -/
theorem fresh_of_dial (settings : Settings) :
    (peer.binding.dial settings world).2.posts = world.posts ∧
      ∀ link, (peer.binding.dial settings world).1 = .ok link →
        (peer.binding.dial settings world).2.queue link = [] := by
  simp only [Peer.binding]
  split
  · exact ⟨rfl, nofun⟩
  · refine ⟨rfl, fun link opened => ?_⟩
    cases opened
    exact world.queue_put ..

/-- A frame that is sent puts its answer on the link, if it gets one. -/
theorem post_of_send (frame : Bytes) : ∃ answer : Option Answer,
    (peer.binding.send link frame world).2.posts = world.posts ++ [⟨link, frame, answer⟩] ∧
      content ((peer.binding.send link frame world).2.queue link) =
        content (world.queue link) ++ content ((answer.map Answer.arrivals).getD []) := by
  refine ⟨(peer.take link frame world.peer).2.1, rfl, ?_⟩
  rw [← content_append]
  exact congrArg content (world.queue_put ..)

variable {peer link world} {after : World π}

/-- A receive moves bytes from the link into the buffer. -/
theorem conserves_of_receive {buffer : FrameBuffer} {outcome : Except LinkError Delivery}
    (received : peer.binding.receive link buffer.space world = (outcome, after)) :
    (buffer.accept outcome).bytes ++ content (after.queue link) =
        buffer.bytes ++ content (world.queue link) ∧
      after.posts = world.posts := by
  simp only [Peer.binding, FrameBuffer.length_space] at received
  split at received
  · rename_i delivered
    cases received
    exact ⟨by rw [World.queue_put, deliver_conserves delivered], rfl⟩
  · cases received
    refine ⟨congrArg (· ++ _) ?_, rfl⟩
    rcases (peer.starve link world.peer).1 with fault | ⟨⟩
    · rfl
    · exact congrArg FrameBuffer.bytes (FrameBuffer.extended_of_claimed_eq_zero rfl)

/-- So does the receiving loop. -/
theorem conserves_of_fills {replySize : Bytes → Nat} {buffer longer : FrameBuffer}
    {receptions : List Reception} {result : Except Error Unit}
    (fills : Fills replySize buffer receptions result longer)
    (receives : Receives peer.binding link world receptions after) :
    longer.bytes ++ content (after.queue link) = buffer.bytes ++ content (world.queue link) ∧
      after.posts = world.posts := by
  induction fills generalizing world with
  | full _ =>
    cases receives
    exact ⟨rfl, rfl⟩
  | fault _ _ =>
    rcases receives with _ | ⟨first, ⟨⟩⟩
    exact conserves_of_receive first
  | @ended buffer _ delivery none =>
    rcases receives with _ | ⟨first, ⟨⟩⟩
    have same : buffer.accept (.ok delivery : Except LinkError Delivery) = buffer :=
      FrameBuffer.extended_of_claimed_eq_zero none
    have conserved := conserves_of_receive first
    rwa [same] at conserved
  | whole _ _ _ =>
    rcases receives with _ | ⟨first, ⟨⟩⟩
    exact conserves_of_receive first
  | more _ _ _ _ ih =>
    rcases receives with _ | ⟨first, rest⟩
    obtain ⟨moved, same⟩ := conserves_of_receive first
    obtain ⟨moved', same'⟩ := ih rest
    exact ⟨moved'.trans moved, same'.trans same⟩

end

/-! ## Exchanges with such a device -/

namespace Client

variable {π α ρ : Type} [Request α ρ] {peer : Peer π} {client : Client Nat (World π)}
  (served : client.binding = peer.binding) (link : Nat) {request : α}
  (sized : Request.replySize request = frameSize) (connection : Connection Nat (World π))

include served

theorem receive_posts : (client.receive link request connection).2.device.posts =
    connection.device.posts := by
  obtain ⟨receptions, filled, longer, fills, receives, -⟩ :=
    client.receive_spec link request connection
  rw [served] at receives
  exact (conserves_of_fills fills receives).2

include sized

/-- A reply that was received is a beginning of what waited on the link, and as long as a frame. -/
theorem receive_settled (steady : ¬Faulted (client.receive link request connection).1)
    (small : ¬Oversized (client.receive link request connection).1) :
    ∃ data, frameSize data ≤ data.length ∧
      data ++ content ((client.receive link request connection).2.device.queue link) =
        content (connection.device.queue link) ∧
      (client.receive link request connection).1 =
        (Request.decode request data).mapError .frame := by
  obtain ⟨receptions, filled, longer, fills, receives, result⟩ :=
    client.receive_spec link request connection
  rw [served] at receives
  rw [sized] at fills
  rcases filled with error | ⟨⟩
  · rcases fills.error_cases with ⟨fault, rfl⟩ | ⟨size, capacity, rfl⟩
    · exact absurd ⟨fault, result⟩ steady
    · exact absurd ⟨size, capacity, result⟩ small
  · exact ⟨longer.bytes, fills.le_size, (conserves_of_fills fills receives).1, result⟩

end Client

end Enip
