import Enip.Proofs.Arrivals
import Enip.Proofs.Frames
import Enip.Rehearsal.Device

/-!
# Frames that come in pieces

A link does not keep the bounds of a frame: it may come in any number of pieces, and may stop
coming at any point. What is received does not depend on the pieces. It is the frame, if all of it
comes and it fits in the buffer; the error for a frame that is too large, if the buffer is full
before it is there; and otherwise whatever keeps the rest from coming
(`Client.receive_reassembles`).

The pieces are put on the links of an arbitrary binding (`Binding.fed`), which says what comes after
them.
-/

namespace Enip

variable {ℓ δ : Type}

/-- The binding on whose links something lies that comes before all else. -/
def Binding.fed (binding : Binding ℓ δ) : Binding ℓ (List Arrival × δ) where
  handshake := binding.handshake
  dial settings world :=
    let (result, device) := binding.dial settings world.2
    (result, world.1, device)
  send handle frame world :=
    let (result, device) := binding.send handle frame world.2
    (result, world.1, device)
  receive handle space world :=
    match deliver space.length world.1 with
    | some (outcome, later) => (outcome, later, world.2)
    | none =>
      let (outcome, device) := binding.receive handle space world.2
      (outcome, [], device)
  shutdown handle world :=
    let (result, device) := binding.shutdown handle world.2
    (result, world.1, device)

/-- The client on whose links something lies. -/
def Client.fed (client : Client ℓ δ) : Client ℓ (List Arrival × δ) :=
  ⟨client.binding.fed, client.settings, client.backoff⟩

/-- What is received when `start` comes of `frame` and then `rest`: with `result`, and leaving
`after`. A frame that is there is read by `read`. -/
structure Reassembles {ρ : Type} (read : Bytes → Except Error ρ) (frame start : Bytes)
    (rest : List Arrival) (device : δ) (result : Except Error ρ) (after : List Arrival × δ) :
    Prop where
  /-- All of the frame comes, and it fits. Nothing else is received. -/
  whole : start = frame → frame.length ≤ FrameBuffer.capacity →
    result = read frame ∧ after = (rest, device)
  /-- The frame does not fit, and more of it comes than fits. No more is received. -/
  large : FrameBuffer.capacity < frame.length → FrameBuffer.capacity ≤ start.length →
    result = .error (.frame (.replyTooLarge frame.length FrameBuffer.capacity)) ∧
      ∃ left : List Bytes, after = (left.map .piece ++ rest, device) ∧
        left.flatten = start.drop FrameBuffer.capacity
  fault : start ≠ frame → start.length < FrameBuffer.capacity →
    ∀ fault later, rest = .fault fault :: later →
      result = .error (.link fault) ∧ after = (later, device)
  ended : start ≠ frame → start.length < FrameBuffer.capacity →
    ∀ later, rest = .ended :: later →
      result = .error (.link (.endOfStream start.length (frameSize start))) ∧
        after = (later, device)

section Loop

variable (binding : Binding ℓ δ) (handle : ℓ) (device : δ) (rest : List Arrival)

theorem receive_piece (buffer : FrameBuffer) (piece : Bytes) (pieces : List Bytes) :
    binding.fed.receive handle buffer.space ((piece :: pieces).map .piece ++ rest, device) =
      (.ok ⟨piece.take buffer.spare, (piece.take buffer.spare).length⟩,
        ((leftOver buffer.spare piece ++ pieces).map .piece ++ rest, device)) := by
  simp only [Binding.fed, FrameBuffer.length_space, List.map_cons, List.cons_append, deliver,
    List.map_append, List.append_assoc]

variable {ρ : Type} (read : Bytes → Except Error ρ) {frame start : Bytes} (buffer : FrameBuffer)
  (pieces : List Bytes)

/-- Some of a frame is in the buffer, and the pieces on the link are what comes of the rest. -/
structure Underway (frame start : Bytes) (buffer : FrameBuffer) (pieces : List Bytes) : Prop where
  whole : Whole frame
  begins : start <+: frame
  cut : buffer.bytes ++ pieces.flatten = start
  nonempty : ∀ piece ∈ pieces, piece ≠ []

variable {buffer pieces}

theorem Underway.held (underway : Underway frame start buffer pieces) : buffer.bytes <+: start :=
  ⟨_, underway.cut⟩

/-- The run of the loop from where the buffer is full. -/
theorem reassembles_of_full (underway : Underway frame start buffer pieces)
    (part : buffer.bytes ≠ frame) (full : buffer.spare = 0) :
    Reassembles read frame start rest device
      (.error (.frame (.replyTooLarge (frameSize buffer.bytes) FrameBuffer.capacity)))
      (pieces.map .piece ++ rest, device) := by
  have size : buffer.bytes.length = FrameBuffer.capacity := by
    have := buffer.size_add_spare
    rwa [full] at this
  have begins := underway.held.trans underway.begins
  have announced : frameSize buffer.bytes = frame.length := by
    rw [frameSize_of_begins begins (by rw [size]; decide), underway.whole.announced]
  have large : FrameBuffer.capacity < frame.length := by
    rw [← size, ← announced]
    exact underway.whole.length_lt_frameSize begins part
  have long : FrameBuffer.capacity ≤ start.length := size ▸ underway.held.length_le
  refine ⟨fun _ fits => ?_, fun _ _ => ⟨?_, pieces, rfl, ?_⟩, fun _ short => ?_, fun _ short => ?_⟩
  · exact absurd fits (Nat.not_le_of_lt large)
  · rw [announced]
  · rw [← underway.cut, ← size, List.drop_left]
  · exact absurd short (Nat.not_lt_of_le long)
  · exact absurd short (Nat.not_lt_of_le long)

/-- The run of the loop from where nothing more comes. -/
theorem fillFrame_of_out (underway : Underway frame start buffer []) (part : buffer.bytes ≠ frame)
    (room : buffer.spare ≠ 0) :
    let run := fillFrame binding.fed handle frameSize buffer (rest, device)
    Reassembles read frame start rest device (run.1.bind fun _ => read run.2.1.bytes) run.2.2 := by
  obtain rfl : buffer.bytes = start := by simpa using underway.cut
  have short : buffer.bytes.length < FrameBuffer.capacity := by
    have := buffer.size_add_spare
    unfold FrameBuffer.size at this
    omega
  refine ⟨fun same => absurd same part, fun _ long => ?_, fun _ _ fault later next => ?_,
    fun _ _ later next => ?_⟩
  · exact absurd long (Nat.not_le_of_lt short)
  · subst next
    have received : binding.fed.receive handle buffer.space (.fault fault :: later, device) =
        (.error fault, later, device) := rfl
    rw [fillFrame_of_error room received]
    exact ⟨rfl, rfl⟩
  · subst next
    have received : binding.fed.receive handle buffer.space (.ended :: later, device) =
        (.ok ⟨[], 0⟩, later, device) := rfl
    rw [fillFrame_of_ok room received, FrameBuffer.extended_of_claimed_eq_zero rfl]
    exact ⟨rfl, rfl⟩

/-- One piece more. -/
theorem Underway.next {piece : Bytes} (underway : Underway frame start buffer (piece :: pieces))
    {longer : FrameBuffer} (bytes : longer.bytes = buffer.bytes ++ piece.take buffer.spare) :
    Underway frame start longer (leftOver buffer.spare piece ++ pieces) := by
  refine ⟨underway.whole, underway.begins, ?_, ?_⟩
  · rw [← underway.cut, bytes, List.flatten_append, List.flatten_cons, List.append_assoc,
      ← List.append_assoc (piece.take _), take_append_leftOver]
  · intro piece member
    rcases List.mem_append.1 member with left | later
    · exact ne_nil_of_mem_leftOver left
    · exact underway.nonempty piece (List.mem_cons_of_mem _ later)

/-- Once the frame is there, nothing is left of it. -/
theorem Underway.done (underway : Underway frame start buffer pieces) (all : buffer.bytes = frame) :
    start = frame ∧ pieces = [] := by
  have same : start = frame :=
    underway.begins.eq_of_length_le (all ▸ underway.held.length_le)
  have cut := underway.cut
  rw [same, all, List.append_right_eq_self, List.flatten_eq_nil_iff] at cut
  exact ⟨same, List.eq_nil_iff_forall_not_mem.2 fun piece member =>
    underway.nonempty piece member (cut piece member)⟩

/-- The run of the loop, from where some of the frame is in the buffer. -/
theorem fillFrame_reassembles (underway : Underway frame start buffer pieces)
    (part : buffer.bytes ≠ frame) :
    let run := fillFrame binding.fed handle frameSize buffer (pieces.map .piece ++ rest, device)
    Reassembles read frame start rest device (run.1.bind fun _ => read run.2.1.bytes) run.2.2 := by
  induction spare : buffer.spare using Nat.strongRecOn generalizing buffer pieces with
  | _ spare ih =>
    by_cases full : buffer.spare = 0
    · rw [fillFrame, if_pos full]
      exact reassembles_of_full device rest read underway part full
    rcases pieces with _ | ⟨piece, pieces⟩
    · exact fillFrame_of_out binding handle device rest read underway part full
    have some : (piece.take buffer.spare).length ≠ 0 := by
      have := List.length_pos_iff.2 (underway.nonempty piece List.mem_cons_self)
      rw [List.length_take]
      omega
    rw [fillFrame_of_ok full (receive_piece binding handle device rest buffer piece pieces)]
    have bytes := buffer.bytes_extended_take piece
    dsimp only
    rw [if_neg some]
    generalize buffer.extended ⟨piece.take buffer.spare, (piece.take buffer.spare).length⟩ = longer
      at bytes
    have next := underway.next bytes
    split
    · rename_i enough
      have all : longer.bytes = frame :=
        underway.whole.eq_of_frameSize_le (next.held.trans underway.begins) enough
      obtain ⟨rfl, out⟩ := next.done all
      have small : start.length ≤ FrameBuffer.capacity := all ▸ longer.fits
      refine ⟨fun _ _ => ⟨congrArg read all, by rw [out]; rfl⟩, fun large _ => ?_,
        fun short _ => ?_, fun short _ => ?_⟩
      · exact absurd small (Nat.not_le_of_lt large)
      · exact absurd rfl short
      · exact absurd rfl short
    · rename_i missing
      have part : longer.bytes ≠ frame := by
        intro all
        refine missing ?_
        exact Nat.le_of_eq (by rw [FrameBuffer.size, all, underway.whole.announced])
      refine ih longer.spare ?_ next part rfl
      have := buffer.size_add_spare
      have := longer.size_add_spare
      have := FrameBuffer.size_of_bytes_append bytes
      omega

end Loop

/-! ## Receiving a reply -/

namespace Client

variable {α ρ π : Type} (client : Client ℓ δ) (handle : ℓ)
  (connection : Connection ℓ (List Arrival × δ)) {device : δ} {rest : List Arrival}
  {frame start : Bytes} {pieces : List Bytes}

/-- Any request will do whose reply is as long as its header says. -/
theorem reassembles_of_frameSize [Request α ρ] (request : α)
    (sized : Request.replySize request = frameSize) (whole : Whole frame) (begins : start <+: frame)
    (cut : pieces.flatten = start) (nonempty : ∀ piece ∈ pieces, piece ≠ [])
    (waiting : connection.device = (pieces.map .piece ++ rest, device)) :
    Reassembles (fun data => (Request.decode request data).mapError .frame) frame start rest device
      (client.fed.receive handle request connection).1
      (client.fed.receive handle request connection).2.device := by
  have underway : Underway frame start .empty pieces := ⟨whole, begins, cut, nonempty⟩
  have part : FrameBuffer.empty.bytes ≠ frame := by
    rintro rfl
    exact absurd whole.header (by decide)
  have reassembled := fillFrame_reassembles client.binding handle device rest
    (fun data => (Request.decode request data).mapError Error.frame) underway part
  obtain ⟨result, after⟩ := client.fed.receive_of_fillFrame handle request connection rfl
  rw [result, after, sized, waiting]
  exact reassembled

/-- **What is received does not depend on the pieces it comes in**, whether the frame is the reply
to an ordinary request or to the request for a session. -/
theorem receive_reassembles [Payload π ρ] (whole : Whole frame) (begins : start <+: frame)
    (cut : pieces.flatten = start) (nonempty : ∀ piece ∈ pieces, piece ≠ [])
    (waiting : connection.device = (pieces.map .piece ++ rest, device)) :
    (∀ request : Encapsulated π,
      Reassembles (fun data => (request.decode data).mapError .frame) frame start rest device
        (client.fed.receive handle request connection).1
        (client.fed.receive handle request connection).2.device) ∧
    Reassembles (fun data => (RegisterSession.decode data).mapError .frame) frame start rest device
      (client.fed.receive handle RegisterSession.mk connection).1
      (client.fed.receive handle RegisterSession.mk connection).2.device :=
  ⟨fun request => client.reassembles_of_frameSize handle connection request rfl whole begins cut
      nonempty waiting,
    client.reassembles_of_frameSize handle connection RegisterSession.mk rfl whole begins cut
      nonempty waiting⟩

end Client

/-- A device that answers nothing. -/
def Rehearsal.Device.mute : Rehearsal.Device :=
  { opens := [], registers := [], sessions := [], nextSession := 1, replies := [],
    unregisterFault := none, shutdownFault := none, pending := [], connects := 0, shutdowns := 0,
    sent := [] }

/-- The frame that registers session 7. -/
def RegisterSession.replyOfSeven : Bytes :=
  [0x65, 0, 4, 0, 7, 0, 0, 0] ++ List.replicate 16 0 ++ [1, 0, 0, 0]

/-- A session is registered, although the length field of the reply is cut in two. -/
theorem receive_reassembles_seven :
    let client : Client Unit Rehearsal.Device :=
      ⟨Rehearsal.binding true, .device "device" 0, ⟨.ofMillis 500, Draws.cycle []⟩⟩
    let connection : Connection Unit (List Arrival × Rehearsal.Device) :=
      .start ([RegisterSession.replyOfSeven.take 3, RegisterSession.replyOfSeven.drop 3].map .piece,
        Rehearsal.Device.mute)
    Whole RegisterSession.replyOfSeven ∧
      (client.fed.receive () RegisterSession.mk connection).1 = .ok 7 ∧
      (client.fed.receive () RegisterSession.mk connection).2.device =
        ([], Rehearsal.Device.mute) := by
  intro client connection
  have whole : Whole RegisterSession.replyOfSeven := ⟨by decide, by decide⟩
  have cut : [RegisterSession.replyOfSeven.take 3, RegisterSession.replyOfSeven.drop 3].flatten =
      RegisterSession.replyOfSeven := by decide
  have waiting : connection.device =
      ([RegisterSession.replyOfSeven.take 3, RegisterSession.replyOfSeven.drop 3].map .piece ++ [],
        Rehearsal.Device.mute) := rfl
  have received := (client.receive_reassembles (π := Bytes) () connection whole
    (List.prefix_refl _) cut (by decide) waiting).2
  exact ⟨whole, received.whole rfl (by decide)⟩

end Enip
