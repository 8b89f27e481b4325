import Enip.Proofs.RoundTrip

/-!
# Requests that do not fit

A request is written behind whatever is in the buffer, field after field, and its payload last
(`Encapsulated.encode_eq`). If there is too little room, those fields are written that have room,
and the next one not at all (`FrameBuffer.putAll_error`): of a number there is never one half, and
of a payload never a part. A payload of more than 65535 bytes has no length that the header could
announce, and nothing is written of such a request.

`Encapsulated.encode_outcome` puts the two ways of failing together. If the buffer was empty, there
is no telling them apart: the size that is complained of is that of the whole frame.
-/

namespace Enip

namespace FrameBuffer

variable {buffer longer : FrameBuffer}

/-- Bytes that do not fit change nothing. -/
theorem put_of_overflow {more : Bytes} (full : capacity < buffer.size + more.length) :
    buffer.put more = (.error (.overflow capacity (buffer.size + more.length)), buffer) := by
  rw [put, dif_neg (Nat.not_le_of_lt full)]

theorem putAll_append (buffer : FrameBuffer) (first second : List Bytes) :
    buffer.putAll (first ++ second) =
      (buffer.putAll first).andThen fun longer => longer.putAll second := by
  induction first generalizing buffer with
  | nil => rfl
  | cons field first ih => simp only [List.cons_append, putAll, Written.andThen_assoc, ih]

/-- What is written in the end is all fields, one after the other. -/
theorem putAll_ok {fields : List Bytes} (written : buffer.putAll fields = (.ok (), longer)) :
    longer.bytes = buffer.bytes ++ fields.flatten := by
  induction fields generalizing buffer with
  | nil =>
    obtain rfl : buffer = longer := congrArg Prod.snd written
    simp
  | cons field fields ih =>
    by_cases room : buffer.size + field.length ≤ capacity
    · obtain ⟨next, first, bytes⟩ := buffer.put_of_fits field room
      rw [putAll, first] at written
      rw [ih written, bytes, List.flatten_cons, List.append_assoc]
    · rw [putAll, put_of_overflow (Nat.lt_of_not_le room)] at written
      cases written

/-- Fields are written whole, up to the first that does not fit. -/
theorem putAll_error {fields : List Bytes} {fault : FrameError}
    (unwritten : buffer.putAll fields = (.error fault, longer)) :
    ∃ kept next rest, fields = kept ++ next :: rest ∧
      longer.bytes = buffer.bytes ++ kept.flatten ∧
      capacity < longer.size + next.length ∧
      fault = .overflow capacity (longer.size + next.length) := by
  induction fields generalizing buffer with
  | nil => cases unwritten
  | cons field fields ih =>
    by_cases room : buffer.size + field.length ≤ capacity
    · obtain ⟨middle, first, bytes⟩ := buffer.put_of_fits field room
      rw [putAll, first] at unwritten
      obtain ⟨kept, next, rest, rfl, behind, full, complaint⟩ := ih unwritten
      refine ⟨field :: kept, next, rest, rfl, ?_, full, complaint⟩
      rw [behind, bytes, List.flatten_cons, List.append_assoc]
    · have full := Nat.lt_of_not_le room
      rw [putAll, put_of_overflow full] at unwritten
      cases unwritten
      exact ⟨[], field, fields, rfl, (List.append_nil _).symm, full, rfl⟩

end FrameBuffer

namespace Encapsulated

variable (request : Encapsulated Bytes) (buffer : FrameBuffer)

/-- A request with a payload that a header can announce is its header, field by field, and then the
payload. -/
theorem encode_eq (small : request.payload.length ≤ 65535) :
    encode request buffer = buffer.putAll
      ((request.header (.ofNat request.payload.length)).fields ++ [request.payload]) := by
  have last (longer : FrameBuffer) :
      Payload.encode request.payload longer = longer.putAll [request.payload] :=
    (FrameBuffer.Written.andThen_ok (longer.put request.payload)).symm
  rw [FrameBuffer.putAll_append, ← funext last, ← Header.encode_eq]
  exact if_pos small

/-- Nothing is written of any other. -/
theorem encode_of_unannounced (large : 65535 < request.payload.length) :
    encode request buffer =
      (.error (.overflow FrameBuffer.capacity (Header.size + request.payload.length)), buffer) :=
  if_neg (Nat.not_le_of_lt large)

theorem bytes_eq_flatten : request.bytes =
    ((request.header (.ofNat request.payload.length)).fields ++ [request.payload]).flatten := by
  simp [bytes, Header.bytes]

/-- A field at which writing stops is the payload, behind the whole header, or one of the header. -/
theorem stop_cases {fields kept rest : List Bytes} {payload next : Bytes}
    (split : fields ++ [payload] = kept ++ next :: rest) :
    (kept = fields ∧ next = payload) ∨ kept ++ [next] <+: fields := by
  rcases rest.eq_nil_or_concat with rfl | ⟨more, last, rfl⟩
  · obtain ⟨rfl, same⟩ := List.append_inj' split rfl
    exact .inl ⟨rfl, (List.singleton_inj.1 same).symm⟩
  · rw [List.concat_eq_append, ← List.cons_append, ← List.append_assoc] at split
    obtain ⟨rfl, -⟩ := List.append_inj' split rfl
    exact .inr ⟨more, by simp⟩

/-- Why a request was not written, and what is left of it in the buffer: the fields `kept` of its
header. -/
structure Unwritten (longer : FrameBuffer) (requested : Nat) (kept : List Bytes) : Prop where
  full : 600 < requested
  whole : kept <+: (request.header (.ofNat request.payload.length)).fields
  bytes : longer.bytes = buffer.bytes ++ kept.flatten
  begins : kept.flatten <+: request.bytes
  part : kept.flatten ≠ request.bytes
  /-- There are none if the payload cannot be announced. -/
  unannounced : 65535 < request.payload.length → kept = []
  /-- If it can, the next field, or the payload, has no room behind them. -/
  stopped : request.payload.length ≤ 65535 → ∃ next rest,
    (request.header (.ofNat request.payload.length)).fields ++ [request.payload] =
      kept ++ next :: rest ∧ requested = longer.size + next.length
  /-- In an empty buffer there is no room for the whole frame. -/
  empty : buffer.size = 0 → requested = 24 + request.payload.length

variable {request buffer}

theorem unwritten_of_unannounced (large : 65535 < request.payload.length) :
    Unwritten request buffer buffer (24 + request.payload.length) [] where
  full := by omega
  whole := List.nil_prefix
  bytes := (List.append_nil _).symm
  begins := List.nil_prefix
  part same := by
    have none := congrArg List.length same
    rw [length_bytes, List.flatten_nil, List.length_nil, Header.size] at none
    omega
  unannounced _ := rfl
  stopped small := absurd large (Nat.not_lt_of_le small)
  empty _ := rfl

theorem unwritten_of_stopped {longer : FrameBuffer} {kept rest : List Bytes} {next : Bytes}
    (small : request.payload.length ≤ 65535)
    (split : (request.header (.ofNat request.payload.length)).fields ++ [request.payload] =
      kept ++ next :: rest)
    (bytes : longer.bytes = buffer.bytes ++ kept.flatten)
    (full : FrameBuffer.capacity < longer.size + next.length) :
    Unwritten request buffer longer (longer.size + next.length) kept := by
  have frame : request.bytes = kept.flatten ++ (next ++ rest.flatten) := by
    rw [bytes_eq_flatten, split, List.flatten_append, List.flatten_cons]
  have fits : longer.size ≤ FrameBuffer.capacity := longer.fits
  have size := FrameBuffer.size_of_bytes_append bytes
  refine ⟨full, ?_, bytes, ⟨_, frame.symm⟩, ?_, fun large => absurd large (Nat.not_lt_of_le small),
    fun _ => ⟨next, rest, split, rfl⟩, fun empty => ?_⟩
  · rcases stop_cases split with ⟨rfl, -⟩ | begins
    · exact List.prefix_rfl
    · exact (List.prefix_append kept [next]).trans begins
  · intro same
    have lengths := congrArg List.length (same.trans frame)
    simp only [List.length_append] at lengths
    omega
  · have header := (request.header (.ofNat request.payload.length)).length_bytes
    rw [Header.bytes, Header.size] at header
    rcases stop_cases split with ⟨rfl, rfl⟩ | ⟨more, begins⟩
    · omega
    · -- A header has room in an empty buffer, so this is not where writing stops.
      have lengths := congrArg (fun fields => fields.flatten.length) begins
      simp only [List.flatten_append, List.length_append, List.flatten_singleton] at lengths
      rw [FrameBuffer.capacity] at full
      omega

/-- **A request is written whole, or else in whole fields of its header.** It is written if and only
if a header can announce its payload and there is room for both. If not, it is because more than
600 bytes would have been needed, and that is said; of the frame there is a part in the buffer,
behind what was there, that ends between two fields of the header and has nothing of the payload. If
the buffer was empty, what would have been needed is always the whole frame. -/
theorem encode_outcome (request : Encapsulated Bytes) (buffer : FrameBuffer) :
    let size := request.payload.length
    ((encode request buffer).1 = .ok () ↔ size ≤ 65535 ∧ buffer.size + 24 + size ≤ 600) ∧
    ((encode request buffer).1 = .ok () →
      (encode request buffer).2.bytes = buffer.bytes ++ request.bytes ∧
      (request.header (.ofNat size)).length.toNat = size) ∧
    ∀ fault, (encode request buffer).1 = .error fault →
      ∃ requested kept, fault = .overflow 600 requested ∧
        Unwritten request buffer (encode request buffer).2 requested kept := by
  intro size
  rcases Nat.lt_or_ge 65535 size with large | small
  · rw [encode_of_unannounced request buffer large]
    refine ⟨⟨nofun, fun room => absurd room.1 (Nat.not_le_of_lt large)⟩, nofun, ?_⟩
    rintro fault ⟨⟩
    exact ⟨_, [], rfl, unwritten_of_unannounced large⟩
  · have announced : (request.header (.ofNat size)).length.toNat = size :=
      UInt16.toNat_ofNat_of_lt' (show size < 2 ^ 16 by omega)
    have length : ((request.header (.ofNat size)).fields ++ [request.payload]).flatten.length =
        24 + size := by
      rw [← bytes_eq_flatten, length_bytes, Header.size]
    rw [encode_eq request buffer small]
    rcases written : buffer.putAll
      ((request.header (.ofNat size)).fields ++ [request.payload]) with ⟨fault | ⟨⟩, longer⟩
    · obtain ⟨kept, next, rest, split, bytes, full, rfl⟩ := FrameBuffer.putAll_error written
      refine ⟨⟨by rintro ⟨⟩, fun room => ?_⟩, by rintro ⟨⟩, ?_⟩
      · obtain ⟨longest, done, -⟩ := buffer.putAll_of_fits
          ((request.header (.ofNat size)).fields ++ [request.payload])
          (by rw [length, FrameBuffer.capacity]; omega)
        rw [written] at done
        cases done
      · rintro fault ⟨⟩
        exact ⟨_, kept, rfl, unwritten_of_stopped small split bytes full⟩
    · have bytes := FrameBuffer.putAll_ok written
      have filled := FrameBuffer.size_of_bytes_append bytes
      have fits : longer.size ≤ 600 := longer.fits
      refine ⟨⟨fun _ => ⟨small, by omega⟩, fun _ => rfl⟩, fun _ => ⟨?_, announced⟩, by rintro _ ⟨⟩⟩
      rw [bytes, bytes_eq_flatten]

end Encapsulated

end Enip
