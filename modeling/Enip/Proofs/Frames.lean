import Enip.Proofs.Framing
import Enip.Request.Session

/-!
# Whole frames

A frame is `Whole` if it is as long as it announces. The size of a frame is known from its first
four bytes, and no beginning of it is taken for the frame (`Whole.eq_of_frameSize_le`,
`Whole.length_lt_frameSize`). What is read as a reply is a whole frame (`Reply.split_ok`,
`Encapsulated.decode_ok`, `RegisterSession.decode_ok`).

What is to be written is laid down byte by byte, apart from the steps that write it
(`Header.bytes`, `RegisterSession.bytes`, `unregisterBytes`). Those steps put one field after the
other (`Header.encode_eq`), and what a connection writes on its own account is what is laid down
(`RegisterSession.frame_eq`, `frame_unregisterSession`).
-/

namespace Enip

/-- A frame that is as long as it announces. -/
structure Whole (frame : Bytes) : Prop where
  header : Header.size ≤ frame.length
  announced : frameSize frame = frame.length

/-! ## Sizes -/

theorem frameSize_of_length_lt {data : Bytes} (short : data.length < 4) :
    frameSize data = Header.size := by
  unfold frameSize
  split
  · simp only [List.length_cons] at short
    omega
  · rfl

/-- No frame is shorter than its header. -/
theorem size_le_frameSize (data : Bytes) : Header.size ≤ frameSize data := by
  unfold frameSize
  split
  · exact Nat.le_add_right ..
  · exact Nat.le_refl _

/-- The size does not change once the length field is there. -/
theorem frameSize_of_begins {start frame : Bytes} (begins : start <+: frame)
    (long : 4 ≤ start.length) : frameSize start = frameSize frame := by
  obtain ⟨rest, rfl⟩ := begins
  match start with
  | _ :: _ :: _ :: _ :: _ => rfl

namespace Whole

variable {start frame : Bytes}

/-- No beginning of a frame is long enough to be taken for a frame. -/
theorem length_lt_frameSize (whole : Whole frame) (begins : start <+: frame)
    (part : start ≠ frame) : start.length < frameSize start := by
  have shorter : start.length < frame.length :=
    Nat.lt_of_le_of_ne begins.length_le fun same => part (begins.eq_of_length same)
  by_cases long : 4 ≤ start.length
  · rw [frameSize_of_begins begins long, whole.announced]
    exact shorter
  · rw [frameSize_of_length_lt (Nat.lt_of_not_le long)]
    exact Nat.lt_trans (Nat.lt_of_not_le long) (by decide)

/-- What is long enough to be taken for a frame is all of it. -/
theorem eq_of_frameSize_le (whole : Whole frame) (begins : start <+: frame)
    (enough : frameSize start ≤ start.length) : start = frame :=
  Classical.byContradiction fun part =>
    Nat.not_lt_of_le enough (whole.length_lt_frameSize begins part)

end Whole

/-! ## Writing -/

namespace FrameBuffer

/-- Bytes that fit are written. -/
theorem put_of_fits (buffer : FrameBuffer) (more : Bytes)
    (room : buffer.size + more.length ≤ capacity) :
    ∃ longer, buffer.put more = (.ok (), longer) ∧ longer.bytes = buffer.bytes ++ more := by
  rw [put, dif_pos room]
  exact ⟨_, rfl, rfl⟩

/-- It is only for want of space that bytes are not written. -/
theorem put_error (buffer : FrameBuffer) {more : Bytes} {fault : FrameError}
    (failed : (buffer.put more).1 = .error fault) :
    ∃ requested, fault = .overflow capacity requested := by
  unfold put at failed
  split at failed
  · cases failed
  · cases failed
    exact ⟨_, rfl⟩

/-- Appends one field after the other, up to the first that does not fit. -/
def putAll (buffer : FrameBuffer) : List Bytes → Written
  | [] => (.ok (), buffer)
  | field :: fields => (buffer.put field).andThen fun longer => longer.putAll fields

/-- Fields that fit are written one after the other. -/
theorem putAll_of_fits (buffer : FrameBuffer) (fields : List Bytes)
    (room : buffer.size + fields.flatten.length ≤ capacity) :
    ∃ longer, buffer.putAll fields = (.ok (), longer) ∧
      longer.bytes = buffer.bytes ++ fields.flatten := by
  induction fields generalizing buffer with
  | nil => exact ⟨buffer, rfl, (List.append_nil _).symm⟩
  | cons field fields ih =>
    rw [List.flatten_cons, List.length_append] at room
    obtain ⟨longer, first, bytes⟩ := buffer.put_of_fits field (by omega)
    have size := size_of_bytes_append bytes
    obtain ⟨longest, rest, bytes'⟩ := ih longer (by omega)
    refine ⟨longest, ?_, ?_⟩
    · rw [putAll, first]
      exact rest
    · rw [bytes', bytes, List.flatten_cons, List.append_assoc]

end FrameBuffer

namespace Bytes

/-- The bytes of a number of two bytes, the low one first. -/
def ofShort (value : UInt16) : Bytes := [value.toUInt8, (value >>> 8).toUInt8]

/-- The bytes of a number of four bytes, the lowest first. -/
def ofLong (value : UInt32) : Bytes :=
  [value.toUInt8, (value >>> 8).toUInt8, (value >>> 16).toUInt8, (value >>> 24).toUInt8]

theorem littleEndian_short (value : UInt16) : littleEndian 2 value.toNat = ofShort value := by
  simp [littleEndian, ofShort, ← UInt8.toNat_inj, Nat.shiftRight_eq_div_pow]

theorem littleEndian_long (value : UInt32) : littleEndian 4 value.toNat = ofLong value := by
  simp [littleEndian, ofLong, ← UInt8.toNat_inj, Nat.shiftRight_eq_div_pow, Nat.div_div_eq_div_mul]

end Bytes

namespace Header

/-- The fields of a header as they are to be written, one after the other. -/
def fields (header : Header) : List Bytes :=
  [Bytes.littleEndian 2 header.command.code.toNat,
    Bytes.littleEndian 2 header.length.toNat,
    Bytes.littleEndian 4 header.session.toNat,
    Bytes.littleEndian 4 header.status.code.toNat,
    header.context.val,
    Bytes.littleEndian 4 header.options.toNat]

/-- The 24 bytes of a header. -/
def bytes (header : Header) : Bytes := header.fields.flatten

@[simp] theorem length_bytes (header : Header) : header.bytes.length = size := by
  simp [bytes, fields, header.context.property, size]

/-- A header is written field by field. -/
theorem encode_eq (header : Header) (buffer : FrameBuffer) :
    header.encode buffer = buffer.putAll header.fields := by
  simp only [encode, fields, FrameBuffer.putAll, FrameBuffer.putShort, FrameBuffer.putLong,
    FrameBuffer.Written.andThen_assoc, FrameBuffer.Written.andThen_ok]

end Header

/-- The bytes of the request for a session: the header, with the command first and the length of
what follows it, and then the version and the options. -/
def RegisterSession.bytes : Bytes :=
  [0x65, 0x00, 0x04, 0x00] ++ List.replicate 20 0x00 ++ [0x01, 0x00, 0x00, 0x00]

/-- The request for a session is written as it is to be. -/
theorem RegisterSession.frame_eq :
    Request.frame RegisterSession.mk = .ok RegisterSession.bytes := rfl

/-- The bytes of the request that ends a session: a header with its command and the session. -/
def unregisterBytes (session : SessionId) : Bytes :=
  [0x66, 0x00, 0x00, 0x00] ++ Bytes.ofLong session ++ List.replicate 16 0x00

theorem bytes_unregisterSession (session : SessionId) :
    (Header.request .unregisterSession 0 session).bytes = unregisterBytes session := by
  have code : Bytes.littleEndian 2 Command.unregisterSession.code.toNat = [0x66, 0x00] := by decide
  rw [unregisterBytes, ← Bytes.littleEndian_long, List.append_assoc]
  simp only [Header.bytes, Header.fields, Header.request, code, List.flatten_cons]
  rfl

theorem frame_unregisterSession (session : SessionId) :
    Request.frame (unregisterSession session) = .ok (unregisterBytes session) := by
  obtain ⟨longer, written, bytes⟩ := FrameBuffer.empty.putAll_of_fits
    (Header.request .unregisterSession 0 session).fields
    (by rw [← Header.bytes, Header.length_bytes]; decide)
  have encoded : Request.encode (unregisterSession session) .empty = (.ok (), longer) := by
    have small : Payload.size (unregisterSession session).payload ≤ 65535 := Nat.zero_le _
    change Encapsulated.encode (unregisterSession session) .empty = _
    rw [Encapsulated.encode, if_pos small]
    rw [← Header.encode_eq] at written
    exact congrArg (FrameBuffer.Written.andThen · (Payload.encode ())) written
  rw [Request.frame, encoded, ← bytes_unregisterSession, Header.bytes]
  exact congrArg _ bytes

/-! ## Reading -/

/-- The number in `width` bytes of a frame from `offset` on. -/
def fieldAt (offset width : Nat) (data : Bytes) : Nat :=
  Bytes.ofLittleEndian ((data.drop offset).take width)

theorem Bytes.ofLittleEndian_lt (bytes : Bytes) :
    Bytes.ofLittleEndian bytes < Nat.pow 256 bytes.length := by
  have same := Bytes.ofLittleEndian_littleEndian bytes.length (Bytes.ofLittleEndian bytes)
  rw [Bytes.littleEndian_ofLittleEndian] at same
  rw [same]
  exact Nat.mod_lt _ (Nat.pow_pos (by decide))

theorem fieldAt_lt (offset width : Nat) (data : Bytes) :
    fieldAt offset width data < Nat.pow 256 width :=
  Nat.lt_of_lt_of_le (Bytes.ofLittleEndian_lt _)
    (Nat.pow_le_pow_right (by decide) (List.length_take_le ..))

theorem Bytes.readNat?_drop {offset width : Nat} {data : Bytes}
    (long : offset + width ≤ data.length) :
    Bytes.readNat? width (data.drop offset) =
      some (fieldAt offset width data, data.drop (offset + width)) := by
  have enough : ¬(data.drop offset).length < width := by
    rw [List.length_drop]
    omega
  rw [Bytes.readNat?, Bytes.readBytes?, if_neg enough, List.drop_drop]
  rfl

theorem Bytes.of_readNat? {width n : Nat} {data rest : Bytes}
    (taken : Bytes.readNat? width data = some (n, rest)) :
    width ≤ data.length ∧ n = Bytes.ofLittleEndian (data.take width) ∧ rest = data.drop width := by
  obtain ⟨⟨field, after⟩, read, same⟩ := Option.map_eq_some_iff.1 taken
  cases same
  unfold Bytes.readBytes? at read
  split at read
  · cases read
  · rename_i long
    cases read
    exact ⟨Nat.le_of_not_lt long, rfl, rfl⟩

/-- There are 24 bytes where a header is read. -/
theorem Header.Raw.size_le_of_read? {data rest : Bytes} {raw : Header.Raw}
    (taken : Header.Raw.read? data = some (raw, rest)) : Header.size ≤ data.length := by
  simp only [Header.Raw.read?, Option.bind_eq_bind, Option.bind_eq_some_iff, Prod.exists] at taken
  obtain ⟨_, _, code, _, _, length, _, _, session, _, _, status, _, _, context, _, _, options, -⟩ :=
    taken
  obtain ⟨-, -, rfl⟩ := Bytes.of_readNat? code
  obtain ⟨-, -, rfl⟩ := Bytes.of_readNat? length
  obtain ⟨-, -, rfl⟩ := Bytes.of_readNat? session
  obtain ⟨-, -, rfl⟩ := Bytes.of_readNat? status
  obtain ⟨-, -, rfl⟩ := Bytes.of_readNat? context
  have last := (Bytes.of_readNat? options).1
  simp only [List.drop_drop, List.length_drop] at last
  unfold Header.size
  omega

/-- The fields of 24 bytes, by their places. -/
theorem Header.Raw.read?_of_le {data : Bytes} (long : Header.size ≤ data.length) :
    ∃ raw, Header.Raw.read? data = some (raw, data.drop Header.size) ∧
      raw.code = .ofNat (fieldAt 0 2 data) ∧ raw.length = .ofNat (fieldAt 2 2 data) ∧
      raw.session = .ofNat (fieldAt 4 4 data) ∧ raw.status = .ofNat (fieldAt 8 4 data) ∧
      raw.context = .ofNat (fieldAt 12 8 data) ∧ raw.options = .ofNat (fieldAt 20 4 data) := by
  unfold Header.size at long
  have code := Bytes.readNat?_drop (show 0 + 2 ≤ data.length by omega)
  have length := Bytes.readNat?_drop (show 2 + 2 ≤ data.length by omega)
  have session := Bytes.readNat?_drop (show 4 + 4 ≤ data.length by omega)
  have status := Bytes.readNat?_drop (show 8 + 4 ≤ data.length by omega)
  have context := Bytes.readNat?_drop (show 12 + 8 ≤ data.length by omega)
  have options := Bytes.readNat?_drop (show 20 + 4 ≤ data.length by omega)
  rw [List.drop_zero] at code
  refine ⟨⟨.ofNat (fieldAt 0 2 data), .ofNat (fieldAt 2 2 data), .ofNat (fieldAt 4 4 data),
    .ofNat (fieldAt 8 4 data), .ofNat (fieldAt 12 8 data), .ofNat (fieldAt 20 4 data)⟩, ?_,
    rfl, rfl, rfl, rfl, rfl, rfl⟩
  simp only [Header.Raw.read?, code, length, session, status, context, options,
    Option.bind_eq_bind, Option.bind_some]
  rfl

theorem frameSize_of_le {data : Bytes} (long : Header.size ≤ data.length) :
    frameSize data = Header.size + fieldAt 2 2 data := by
  unfold Header.size at long
  match data with
  | _ :: _ :: low :: high :: _ => simp [frameSize, fieldAt, Bytes.ofLittleEndian]

/-- What a header is read from: 24 bytes, of which the length field and the session are parts. -/
theorem Header.parse_ok {data rest : Bytes} {header : Header}
    (parsed : Header.parse data = .ok (header, rest)) :
    Header.size ≤ data.length ∧ rest = data.drop Header.size ∧
      header.frameSize = Enip.frameSize data ∧ header.session = .ofNat (fieldAt 4 4 data) := by
  unfold Header.parse at parsed
  split at parsed
  · cases parsed
  · rename_i raw after taken
    have long := Header.Raw.size_le_of_read? taken
    obtain ⟨raw', taken', -, length, session, -⟩ := Header.Raw.read?_of_le long
    rw [taken] at taken'
    cases taken'
    split at parsed
    · cases parsed
    · cases parsed
      refine ⟨long, rfl, ?_, session⟩
      have small : fieldAt 2 2 data < 2 ^ 16 := fieldAt_lt 2 2 data
      rw [frameSize_of_le long, Header.frameSize, Header.Raw.withCommand, length,
        UInt16.toNat_ofNat_of_lt' small]

/-- A reply that is taken apart is a whole frame. -/
theorem Reply.split_ok {data payload : Bytes} {command : Command} {header : Header}
    (split : Reply.split data command = .ok (header, payload)) :
    Whole data ∧ payload = data.drop Header.size ∧
      header.session = .ofNat (fieldAt 4 4 data) := by
  rcases parsed : Header.parse data with fault | ⟨found, rest⟩
  all_goals simp only [Reply.split, parsed, bind, Except.bind] at split
  · cases split
  · obtain ⟨long, rfl, size, session⟩ := Header.parse_ok parsed
    split at split
    · cases split
    · split at split
      · cases split
      · split at split
        · cases split
        · split at split
          · cases split
          · cases split
            exact ⟨⟨long, by omega⟩, rfl, session⟩

/-- What registers a session is a whole frame, and the session is not zero. -/
theorem RegisterSession.decode_ok {data : Bytes} {session : SessionId}
    (decoded : RegisterSession.decode data = .ok session) : Whole data ∧ session ≠ 0 := by
  rcases taken : Reply.split data .registerSession with fault | ⟨header, rest⟩
  all_goals simp only [RegisterSession.decode, taken, bind, Except.bind] at decoded
  · cases decoded
  · obtain ⟨whole, rfl, -⟩ := Reply.split_ok taken
    refine ⟨whole, ?_⟩
    split at decoded
    · split at decoded
      · split at decoded
        · cases decoded
        · split at decoded
          · cases decoded
          · split at decoded
            · cases decoded
            · rename_i nonzero
              cases decoded
              exact nonzero
      · cases decoded
    · cases decoded

/-- What is read as the reply to a request is a whole frame, and the reply is its payload. -/
theorem Encapsulated.decode_ok {request : Encapsulated Bytes} {data payload : Bytes}
    (decoded : Request.decode request data = .ok payload) :
    Whole data ∧ payload = data.drop Header.size := by
  change Encapsulated.decode request data = .ok payload at decoded
  rcases taken : Reply.split data request.command with fault | ⟨header, rest⟩
  all_goals simp only [Encapsulated.decode, taken, bind, Except.bind] at decoded
  · cases decoded
  · obtain ⟨whole, rfl, -⟩ := Reply.split_ok taken
    refine ⟨whole, ?_⟩
    split at decoded
    · cases decoded
    · cases decoded
      rfl

/-- A request that names a session takes no reply of another. -/
theorem Encapsulated.session_of_decode {π ρ : Type} [Payload π ρ] {request : Encapsulated π}
    {data : Bytes} {reply : ρ} (decoded : Request.decode request data = .ok reply)
    (named : request.session ≠ 0) : fieldAt 4 4 data = request.session.toNat := by
  change Encapsulated.decode request data = .ok reply at decoded
  rcases taken : Reply.split data request.command with fault | ⟨header, rest⟩
  all_goals simp only [Encapsulated.decode, taken, bind, Except.bind] at decoded
  · cases decoded
  · obtain ⟨-, -, session⟩ := Reply.split_ok taken
    split at decoded
    · cases decoded
    · rename_i agrees
      have same : header.session = request.session := by
        refine Classical.byContradiction fun different => agrees ⟨named, different⟩
      have small : fieldAt 4 4 data < 2 ^ 32 := fieldAt_lt 4 4 data
      rw [← same, session, UInt32.toNat_ofNat_of_lt' small]

end Enip
