import Enip.Proofs.Rebinding
import Enip.Proofs.Replies

/-!
# Requests, written and read back

A request with at most 576 bytes of payload fits in the buffer, and no other does
(`Encapsulated.frame_eq_ok_iff`); it is written as its header and its payload
(`Encapsulated.bytes`). That is a frame like any other, so a device may send it back as it came.
Taken apart it gives the header and the payload again (`Reply.split_bytes`), and it is read by every
request for the same command in the same session or in none (`Encapsulated.decode_bytes`). The
header tells the command, the session and the context, so that no two requests are written alike
(`Encapsulated.bytes_inj`).
-/

namespace Enip

/-- A header of a success, and as many bytes as it announces, are taken apart where they join. -/
theorem Reply.split_bytes {header : Header} {body : Bytes} (success : header.status = .success)
    (announced : header.length.toNat = body.length) :
    Reply.split (header.bytes ++ body) header.command = .ok (header, body) := by
  have named : { header with status := .ofCode header.status.code } = header := by
    cases header
    cases success
    rfl
  have parsed : Header.parse (header.bytes ++ body) = .ok (header, body) := by
    rw [Header.parse_bytes, named]
  have size : (header.bytes ++ body).length = header.frameSize := by
    rw [List.length_append, Header.length_bytes, Header.frameSize, announced]
  simp only [Reply.split, parsed, bind, Except.bind, success, size, ne_eq, not_true_eq_false,
    Nat.lt_irrefl, if_false]
  rfl

namespace Encapsulated

/-- The bytes of a request: its header, and then its payload. -/
def bytes (request : Encapsulated Bytes) : Bytes :=
  (request.header (.ofNat request.payload.length)).bytes ++ request.payload

variable {request : Encapsulated Bytes}

@[simp] theorem length_bytes (request : Encapsulated Bytes) :
    request.bytes.length = Header.size + request.payload.length := by
  rw [bytes, List.length_append, Header.length_bytes]

/-- What fits is written whole. -/
theorem encode_of_fits (fits : request.payload.length ≤ 576) :
    ∃ buffer, Request.encode request .empty = (.ok (), buffer) ∧ buffer.bytes = request.bytes := by
  let header := request.header (.ofNat request.payload.length)
  have room : Header.size ≤ FrameBuffer.empty.spare := by decide
  obtain ⟨longer, first, front⟩ := header.encode_of_room room
  have filled : longer.size = Header.size := by
    rw [FrameBuffer.size, front]
    exact header.length_bytes
  obtain ⟨longest, second, back⟩ := longer.put_of_fits request.payload
    (by rw [filled, Header.size, FrameBuffer.capacity]; omega)
  have small : Payload.size request.payload ≤ 65535 := by
    change request.payload.length ≤ 65535
    omega
  refine ⟨longest, ?_, ?_⟩
  · change Encapsulated.encode request .empty = _
    rw [Encapsulated.encode, if_pos small]
    exact (congrArg (FrameBuffer.Written.andThen · (Payload.encode request.payload)) first).trans
      second
  · rw [back, front]
    rfl

/-- A request is written if and only if there is room for its payload behind its header. -/
theorem frame_eq_ok_iff {frame : Bytes} :
    Request.frame request = .ok frame ↔ request.payload.length ≤ 576 ∧ frame = request.bytes := by
  constructor
  · intro written
    have same := frame_eq (Payload.writes_bytes request.payload) written
    refine ⟨?_, same⟩
    have room : frame.length ≤ 600 := by
      unfold Request.frame at written
      split at written
      · cases written
      · cases written
        exact FrameBuffer.fits _
    rw [same, List.length_append, Header.length_bytes, Header.size] at room
    omega
  · rintro ⟨fits, rfl⟩
    obtain ⟨buffer, encoded, bytes⟩ := encode_of_fits fits
    rw [Request.frame, encoded, ← bytes]

/-! ## Reading it back -/

section

variable (fits : request.payload.length ≤ 576)

include fits

/-- The header announces the payload. -/
theorem announced_of_fits :
    (request.header (.ofNat request.payload.length)).length.toNat = request.payload.length :=
  UInt16.toNat_ofNat_of_lt' (show request.payload.length < 2 ^ 16 by omega)

theorem split_bytes : Reply.split request.bytes request.command =
    .ok (request.header (.ofNat request.payload.length), request.payload) :=
  Reply.split_bytes rfl (announced_of_fits fits)

/-- What was written is a frame. -/
theorem whole_bytes : Whole request.bytes := (Reply.split_ok (split_bytes fits)).1

/-- A request for the same command reads the payload, unless it belongs to another session. -/
theorem decode_bytes {π ρ : Type} [Payload π ρ] {asked : Encapsulated π}
    (same : asked.command = request.command) :
    Request.decode asked request.bytes =
      if asked.session ≠ 0 ∧ request.session ≠ asked.session then
        .error (.sessionMismatch asked.session request.session)
      else Payload.decode asked.payload request.payload := by
  change Encapsulated.decode asked request.bytes = _
  rw [Encapsulated.decode, same, split_bytes fits]
  dsimp only [bind, Except.bind, Encapsulated.header, Header.request]
  split
  · rfl
  · rfl

/-- **No two requests are written alike.** -/
theorem bytes_inj {other : Encapsulated Bytes} (fits' : other.payload.length ≤ 576)
    (same : other.bytes = request.bytes) : other = request := by
  have read := Header.parse_bytes (request.header (.ofNat request.payload.length)) request.payload
  have read' := Header.parse_bytes (other.header (.ofNat other.payload.length)) other.payload
  rw [← bytes, same, bytes, read] at read'
  obtain ⟨headers, payloads⟩ := Prod.mk.inj (Except.ok.inj read')
  obtain ⟨commands, -, sessions, -, contexts, -⟩ := Header.mk.inj headers
  cases request
  cases other
  cases commands
  cases sessions
  cases contexts
  cases payloads
  rfl

end

/-- **Requests are read back as they were written.** A request with room for its payload is written
as one frame that fits in the buffer. Taken apart, the frame gives its header and its payload. A
request for the same command in the same session or in none takes it for its reply, which is the
payload, and one in another session takes it for a reply of that. No other request is written so. -/
theorem round_trip (request : Encapsulated Bytes) (fits : request.payload.length ≤ 576) :
    ∃ buffer header, Request.encode request .empty = (.ok (), buffer) ∧
      (buffer.bytes.length = 24 + request.payload.length ∧ buffer.bytes.length ≤ 600 ∧
        frameSize buffer.bytes = buffer.bytes.length) ∧
      Reply.split buffer.bytes request.command = .ok (header, request.payload) ∧
      (header.command = request.command ∧ header.session = request.session ∧
        header.context = request.context ∧ header.length.toNat = request.payload.length ∧
        header.status = .success ∧ header.options = 0) ∧
      Request.decode request buffer.bytes = .ok request.payload ∧
      (∀ other : Encapsulated Bytes, other.command = request.command →
        (other.session = 0 → Request.decode other buffer.bytes = .ok request.payload) ∧
        (other.session ≠ 0 → other.session ≠ request.session →
          Request.decode other buffer.bytes =
            .error (.sessionMismatch other.session request.session))) ∧
      ∀ (other : Encapsulated Bytes) (longer : FrameBuffer),
        Request.encode other .empty = (.ok (), longer) → longer.bytes = buffer.bytes →
        other.command = request.command ∧ other.session = request.session ∧
          other.context = request.context ∧ other.payload = request.payload := by
  obtain ⟨buffer, encoded, bytes⟩ := encode_of_fits fits
  have whole := whole_bytes fits
  refine ⟨buffer, request.header (.ofNat request.payload.length), encoded, ?_, ?_, ?_, ?_, ?_, ?_⟩
  · rw [bytes]
    exact ⟨request.length_bytes, bytes ▸ buffer.fits, whole.announced⟩
  · rw [bytes]
    exact split_bytes fits
  · exact ⟨rfl, rfl, rfl, announced_of_fits fits, rfl, rfl⟩
  · rw [bytes, decode_bytes fits rfl, if_neg fun other => other.2 rfl]
    rfl
  · intro other same
    rw [bytes, decode_bytes fits same]
    refine ⟨fun none => ?_, fun some different => ?_⟩
    · rw [if_neg fun named => named.1 none]
      rfl
    · exact if_pos ⟨some, different.symm⟩
  · intro other longer encoded' same
    have written : Request.frame other = .ok longer.bytes := by
      rw [Request.frame, encoded']
    obtain ⟨fits', bytes'⟩ := frame_eq_ok_iff.1 written
    obtain rfl := bytes_inj fits fits' (by rw [← bytes', same, bytes])
    exact ⟨rfl, rfl, rfl, rfl⟩

/-- A request that fills the buffer to the last byte. -/
theorem round_trip_full :
    let request : Encapsulated Bytes :=
      { command := .sendUnitData, session := 7, payload := List.replicate 576 0xff }
    request.payload.length ≤ 576 ∧ ∃ buffer, Request.encode request .empty = (.ok (), buffer) ∧
      buffer.bytes.length = 600 ∧ frameSize buffer.bytes = 600 ∧
      Request.decode request buffer.bytes = .ok request.payload ∧
      Request.decode { request with session := 8 } buffer.bytes =
        .error (.sessionMismatch 8 7) := by
  intro request
  have fits : request.payload.length ≤ 576 := Nat.le_of_eq List.length_replicate
  obtain ⟨buffer, header, encoded, ⟨length, -, announced⟩, -, -, decoded, others, -⟩ :=
    request.round_trip fits
  have full : buffer.bytes.length = 600 := by
    rw [length, List.length_replicate]
  exact ⟨fits, buffer, encoded, full, announced.trans full, decoded,
    (others { request with session := 8 } rfl).2 (by decide) (by decide)⟩

end Encapsulated

end Enip
