import Enip.Proofs.Frames

/-!
# The codec of headers

Writing a header and reading it are inverse to each other as far as they can be (`Header.codec`).
What was written is read back field by field (`Header.Raw.read?_bytes`); only the status may come
back under another name, where it hid the code of a named one. What was read stands there as it
would be written (`Header.bytes_of_parse`).

Whether there is a header at the front of some bytes depends on their number and on the command
code alone: `Header.parse_of_short`, `Header.parse_of_unknown` and `Header.parse_of_known` are the
three cases.
-/

namespace Enip

/-! ## Fields -/

/-- A number that is read stands there as it would be written. -/
theorem Bytes.littleEndian_of_readNat? {width n : Nat} {data rest : Bytes}
    (taken : Bytes.readNat? width data = some (n, rest)) :
    Bytes.littleEndian width n ++ rest = data ∧ n < Nat.pow 256 width := by
  obtain ⟨long, rfl, rfl⟩ := Bytes.of_readNat? taken
  have width_eq : (data.take width).length = width := List.length_take_of_le long
  have written := Bytes.littleEndian_ofLittleEndian (data.take width)
  have small := Bytes.ofLittleEndian_lt (data.take width)
  rw [width_eq] at written small
  rw [written, List.take_append_drop]
  exact ⟨rfl, small⟩

/-- A context is read as a number of eight bytes. -/
theorem Bytes.readNat?_context (context : Context) (rest : Bytes) :
    Bytes.readNat? 8 (context.val ++ rest) = some (Bytes.ofLittleEndian context.val, rest) := by
  have field : Bytes.readBytes? context.val.length (context.val ++ rest) =
      some (context.val, rest) := Bytes.readBytes?_append
  rw [context.property] at field
  rw [Bytes.readNat?, field]
  rfl

/-- The number keeps the bytes of the context, and their order. -/
theorem Context.ofNumber_ofLittleEndian (context : Context) :
    Context.ofNumber (.ofNat (Bytes.ofLittleEndian context.val)) = context := by
  have small := Bytes.ofLittleEndian_lt context.val
  have written := Bytes.littleEndian_ofLittleEndian context.val
  rw [context.property] at small written
  rw [Context.ofNumber, Subtype.mk.injEq, UInt64.toNat_ofNat_of_lt' small, written]

namespace Header

/-! ## Reading what was written -/

/-- The fields of a header as they are read back. -/
def raw (header : Header) : Raw :=
  { code := header.command.code, length := header.length, session := header.session,
    status := header.status.code, context := .ofNat (Bytes.ofLittleEndian header.context.val),
    options := header.options }

/-- The fields of a header are read back, whatever follows it. -/
theorem Raw.read?_bytes (header : Header) (rest : Bytes) :
    Raw.read? (header.bytes ++ rest) = some (header.raw, rest) := by
  have places : header.bytes ++ rest =
      Bytes.littleEndian 2 header.command.code.toNat ++
      (Bytes.littleEndian 2 header.length.toNat ++
      (Bytes.littleEndian 4 header.session.toNat ++
      (Bytes.littleEndian 4 header.status.code.toNat ++
      (header.context.val ++ (Bytes.littleEndian 4 header.options.toNat ++ rest))))) := by
    simp [bytes, fields]
  have two (n : UInt16) : UInt16.ofNat (n.toNat % Nat.pow 256 2) = n := by
    rw [Nat.mod_eq_of_lt n.toNat_lt, UInt16.ofNat_toNat]
  have four (n : UInt32) : UInt32.ofNat (n.toNat % Nat.pow 256 4) = n := by
    rw [Nat.mod_eq_of_lt n.toNat_lt, UInt32.ofNat_toNat]
  simp only [places, Raw.read?, Bytes.readNat?_littleEndian, Bytes.readNat?_context,
    Option.bind_eq_bind, Option.bind_some, two, four]
  rfl

/-- A header is read back, with its status under the name that the code has. -/
theorem parse_bytes (header : Header) (rest : Bytes) :
    parse (header.bytes ++ rest) =
      .ok ({ header with status := .ofCode header.status.code }, rest) := by
  have known : Command.ofCode? header.raw.code = some header.command :=
    Command.ofCode?_code header.command
  have same : header.raw.withCommand header.command =
      { header with status := .ofCode header.status.code } := by
    rw [Raw.withCommand, raw, Context.ofNumber_ofLittleEndian]
  simp only [parse, Raw.read?_bytes, known, same]

/-- A number in four bytes of some data is what it is read as. -/
theorem ofNat_fieldAt_eq_iff {offset : Nat} {data : Bytes} {value : UInt32} :
    UInt32.ofNat (fieldAt offset 4 data) = value ↔ fieldAt offset 4 data = value.toNat := by
  have small : fieldAt offset 4 data < 2 ^ 32 := fieldAt_lt offset 4 data
  rw [← UInt32.toNat_inj, UInt32.toNat_ofNat_of_lt' small]

/-- The session stands in the header after the command and the length. -/
theorem fieldAt_session (header : Header) (rest : Bytes) :
    fieldAt 4 4 (header.bytes ++ rest) = header.session.toNat := by
  have long : size ≤ (header.bytes ++ rest).length := by simp
  obtain ⟨raw, taken, -, -, session, -⟩ := Raw.read?_of_le long
  rw [Raw.read?_bytes] at taken
  obtain ⟨rfl, -⟩ := Prod.mk.inj (Option.some.inj taken)
  exact ofNat_fieldAt_eq_iff.1 session.symm

/-! ## Writing what was read -/

/-- A header that is read stands there as it would be written. -/
theorem bytes_of_parse {header : Header} {data rest : Bytes}
    (parsed : parse data = .ok (header, rest)) : header.bytes ++ rest = data := by
  unfold parse at parsed
  split at parsed
  · cases parsed
  rename_i raw after taken
  split at parsed
  · cases parsed
  rename_i command found
  cases parsed
  simp only [Raw.read?, Option.bind_eq_bind, Option.bind_eq_some_iff, Prod.exists] at taken
  obtain ⟨code, _, code', length, _, length', session, _, session', status, _, status', context, _,
    context', options, _, options', last⟩ := taken
  cases last
  -- Each field is put back in front of what was left when it was read.
  obtain ⟨rfl, code_lt⟩ := Bytes.littleEndian_of_readNat? code'
  obtain ⟨rfl, length_lt⟩ := Bytes.littleEndian_of_readNat? length'
  obtain ⟨rfl, session_lt⟩ := Bytes.littleEndian_of_readNat? session'
  obtain ⟨rfl, status_lt⟩ := Bytes.littleEndian_of_readNat? status'
  obtain ⟨rfl, context_lt⟩ := Bytes.littleEndian_of_readNat? context'
  obtain ⟨rfl, options_lt⟩ := Bytes.littleEndian_of_readNat? options'
  rw [Command.ofCode?_eq_some_iff] at found
  simp only [bytes, fields, Raw.withCommand, Context.ofNumber, found, Status.code_ofCode,
    UInt16.toNat_ofNat_of_lt' code_lt, UInt16.toNat_ofNat_of_lt' length_lt,
    UInt32.toNat_ofNat_of_lt' session_lt, UInt32.toNat_ofNat_of_lt' status_lt,
    UInt64.toNat_ofNat_of_lt' context_lt, UInt32.toNat_ofNat_of_lt' options_lt,
    List.flatten_cons, List.flatten_nil, List.append_nil, List.append_assoc]

/-! ## Where there is a header -/

section

variable {data : Bytes}

theorem parse_of_short (short : data.length < size) :
    parse data = .error (.truncated size data.length) := by
  rcases taken : Raw.read? data with _ | ⟨raw, rest⟩
  · simp only [parse, taken]
  · exact absurd (Raw.size_le_of_read? taken) (Nat.not_le_of_lt short)

theorem parse_of_unknown (long : size ≤ data.length)
    (unknown : Command.ofCode? (.ofNat (fieldAt 0 2 data)) = none) :
    parse data = .error (.unknownCommand (.ofNat (fieldAt 0 2 data))) := by
  obtain ⟨raw, taken, code, -⟩ := Raw.read?_of_le long
  rw [← code] at unknown ⊢
  simp only [parse, taken, unknown]

theorem parse_of_known (long : size ≤ data.length) {command : Command}
    (known : Command.ofCode? (.ofNat (fieldAt 0 2 data)) = some command) :
    ∃ header, parse data = .ok (header, data.drop size) ∧ header.command = command ∧
      header.length = .ofNat (fieldAt 2 2 data) ∧ header.session = .ofNat (fieldAt 4 4 data) ∧
      header.status = .ofCode (.ofNat (fieldAt 8 4 data)) := by
  obtain ⟨raw, taken, code, length, session, status, -⟩ := Raw.read?_of_le long
  rw [← code] at known
  refine ⟨raw.withCommand command, ?_, rfl, length, session, congrArg Status.ofCode status⟩
  simp only [parse, taken, known]

/-- What is missing where there are fewer bytes than a header has is nothing but bytes. -/
theorem parse_truncated_iff :
    parse data = .error (.truncated size data.length) ↔ data.length < size := by
  refine ⟨fun failed => Nat.lt_of_not_le fun long => ?_, parse_of_short⟩
  rcases read : Command.ofCode? (.ofNat (fieldAt 0 2 data)) with _ | command
  · rw [parse_of_unknown long read] at failed
    cases failed
  · obtain ⟨header, parsed, -⟩ := parse_of_known long read
    rw [parsed] at failed
    cases failed

/-- A code is found unknown where it stands first and belongs to no command. -/
theorem parse_unknownCommand_iff {code : UInt16} :
    parse data = .error (.unknownCommand code) ↔
      size ≤ data.length ∧ code = .ofNat (fieldAt 0 2 data) ∧
        ∀ command : Command, command.code ≠ code := by
  constructor
  · intro failed
    have long : size ≤ data.length := Nat.le_of_not_lt fun short => by
      rw [parse_of_short short] at failed
      cases failed
    rcases read : Command.ofCode? (.ofNat (fieldAt 0 2 data)) with _ | command
    · rw [parse_of_unknown long read] at failed
      cases failed
      exact ⟨long, rfl, Command.ofCode?_eq_none_iff.1 read⟩
    · obtain ⟨header, parsed, -⟩ := parse_of_known long read
      rw [parsed] at failed
      cases failed
  · rintro ⟨long, rfl, unknown⟩
    exact parse_of_unknown long (Command.ofCode?_eq_none_iff.2 unknown)

end

/-! ## Both ways -/

/-- Where there is room for a header, it is written behind what is there. -/
theorem encode_of_room (header : Header) {buffer : FrameBuffer} (room : size ≤ buffer.spare) :
    ∃ longer, header.encode buffer = (.ok (), longer) ∧
      longer.bytes = buffer.bytes ++ header.bytes := by
  rw [header.encode_eq]
  refine buffer.putAll_of_fits header.fields ?_
  have length : header.fields.flatten.length = size := header.length_bytes
  have whole := buffer.size_add_spare
  omega

/-- **Headers are read as they were written, and written as they were read.** Where there is room,
24 bytes are appended to the buffer, and reading them gives the header back, whatever follows: the
same header, unless its status hides the code of a named one. In turn any bytes are too few, begin
with a code that is no command, or begin with a header that would be written just so. -/
theorem codec (header : Header) (buffer : FrameBuffer) (rest data : Bytes)
    (room : 24 ≤ buffer.spare) :
    (∃ longer, header.encode buffer = (.ok (), longer) ∧
      longer.bytes = buffer.bytes ++ header.bytes ∧ header.bytes.length = 24) ∧
    parse (header.bytes ++ rest) =
      .ok ({ header with status := .ofCode header.status.code }, rest) ∧
    ({ header with status := .ofCode header.status.code } = header ↔
      ¬∃ known ∈ Status.named, header.status = .other known.code) ∧
    (parse data = .error (.truncated 24 data.length) ↔ data.length < 24) ∧
    (∀ code, parse data = .error (.unknownCommand code) ↔
      24 ≤ data.length ∧ code = .ofNat (fieldAt 0 2 data) ∧
        ∀ command : Command, command.code ≠ code) ∧
    (24 ≤ data.length → (∃ command : Command, command.code = .ofNat (fieldAt 0 2 data)) →
      ∃ found after longer, parse data = .ok (found, after) ∧
        found.encode buffer = (.ok (), longer) ∧ longer.bytes ++ after = buffer.bytes ++ data) := by
  refine ⟨?_, parse_bytes header rest, ?_, parse_truncated_iff,
    fun code => parse_unknownCommand_iff, fun long ⟨command, code⟩ => ?_⟩
  · obtain ⟨longer, written, bytes⟩ := header.encode_of_room room
    exact ⟨longer, written, bytes, header.length_bytes⟩
  · rw [Header.mk.injEq]
    simp only [true_and, and_true, Status.ofCode_code_iff, not_exists, not_and, ne_eq]
  · obtain ⟨found, parsed, -⟩ := parse_of_known long (Command.ofCode?_eq_some_iff.2 code)
    obtain ⟨longer, written, bytes⟩ := found.encode_of_room room
    refine ⟨found, _, longer, parsed, written, ?_⟩
    rw [bytes, List.append_assoc, bytes_of_parse parsed]

/-- A status that hides a named code comes back under that name. -/
theorem codec_renamed :
    let header : Header := { Header.request .sendRequestReply 1 7 with status := .other 0x0001 }
    24 ≤ FrameBuffer.empty.spare ∧
    (∃ longer, header.encode .empty = (.ok (), longer) ∧ longer.bytes.length = 24) ∧
    parse (header.bytes ++ [9]) = .ok ({ header with status := .invalidCommand }, [9]) ∧
    { header with status := .ofCode header.status.code } ≠ header ∧
    ∃ found after longer, parse (header.bytes ++ [9]) = .ok (found, after) ∧
      found.encode .empty = (.ok (), longer) ∧ longer.bytes ++ after = header.bytes ++ [9] := by
  intro header
  obtain ⟨⟨longer, written, bytes, length⟩, parsed, same, -, -, found⟩ :=
    header.codec .empty [9] (header.bytes ++ [9]) (by decide)
  refine ⟨by decide, ⟨longer, written, ?_⟩, parsed, ?_,
    found (by decide) ⟨.sendRequestReply, by decide⟩⟩
  · rw [bytes]
    exact length
  · exact fun unchanged => same.1 unchanged ⟨.invalidCommand, by decide, rfl⟩

end Header

/-- A request is not written if its payload is too large, or for what its payload says: its header
always fits. -/
theorem Encapsulated.frame_error {π ρ : Type} [Payload π ρ] {request : Encapsulated π}
    {fault : FrameError} (unwritten : Request.frame request = .error fault) :
    (∃ requested, fault = .overflow FrameBuffer.capacity requested) ∨
      ∃ buffer, (Payload.encode request.payload buffer).1 = .error fault := by
  have room : Header.size ≤ FrameBuffer.empty.spare := by decide
  rcases encoded : Request.encode request .empty with ⟨failure | ⟨⟩, buffer⟩
  all_goals
    rw [Request.frame, encoded] at unwritten
    cases unwritten
  change Encapsulated.encode request .empty = _ at encoded
  unfold Encapsulated.encode at encoded
  dsimp only at encoded
  split at encoded
  · obtain ⟨longer, written, -⟩ :=
      (request.header (.ofNat (Payload.size request.payload))).encode_of_room room
    rw [written] at encoded
    exact .inr ⟨longer, congrArg Prod.fst encoded⟩
  · cases encoded
    exact .inl ⟨_, rfl⟩

end Enip
