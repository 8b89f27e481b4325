import Enip.Proofs.Headers

/-!
# Which bytes are a reply

The bytes that a request takes for its reply are described by their length and four fields of the
header (`Reply.Accepted`). There are seven things that can be wrong with any other bytes, and these
overlap; `Reply.objections` lists them in the order in which they are looked for. A request reads
its reply by raising the first objection and otherwise handing the bytes after the header on to its
payload (`Encapsulated.decode_eq`), so that it is the payload alone that can find fault with
accepted bytes (`Encapsulated.decode_exact`). Context and options count for nothing.
-/

namespace Enip

/-! ## Objections -/

namespace Reply

variable (command : Command) (session : SessionId) (data : Bytes)

/-- What is wrong with bytes that are to answer `command` in a session, in the order in which it is
looked for. Fields are those of the header, whether or not the bytes are enough for one. -/
def objections : List (Option FrameError) :=
  let size := Header.size + fieldAt 2 2 data
  let code := UInt16.ofNat (fieldAt 0 2 data)
  let status := UInt32.ofNat (fieldAt 8 4 data)
  let named := UInt32.ofNat (fieldAt 4 4 data)
  [if data.length < Header.size then some (.truncated Header.size data.length) else none,
    if Command.ofCode? code = none then some (.unknownCommand code) else none,
    (Command.ofCode? code).bind fun actual =>
      if actual ≠ command then some (.unexpectedCommand command actual) else none,
    if status ≠ 0 then some (.refused (.ofCode status)) else none,
    if data.length < size then some (.truncated size data.length) else none,
    if size < data.length then some (.trailing size data.length) else none,
    if session ≠ 0 ∧ named ≠ session then some (.sessionMismatch session named) else none]

/-- The first thing that is wrong with bytes that are to answer `command` in a session. -/
def objection? : Option FrameError := (objections command session data).findSome? id

/-- Bytes are one frame that answers `command` with success, in the session if there is one. -/
structure Accepted : Prop where
  header : Header.size ≤ data.length
  command : fieldAt 0 2 data = command.code.toNat
  status : fieldAt 8 4 data = 0
  length : fieldAt 2 2 data = data.length - Header.size
  /-- It belongs to the session, if there is one. -/
  session : session = 0 ∨ fieldAt 4 4 data = session.toNat

end Reply

namespace Reply

variable {command : Command} {session : SessionId} {data : Bytes}

/-- There is nothing wrong with accepted bytes, and with no others. -/
theorem objection?_eq_none_iff :
    objection? command session data = none ↔ Accepted command session data := by
  have echo : Command.ofCode? (.ofNat (fieldAt 0 2 data)) = some command ↔
      fieldAt 0 2 data = command.code.toNat := by
    have small : fieldAt 0 2 data < 2 ^ 16 := fieldAt_lt 0 2 data
    rw [Command.ofCode?_eq_some_iff, ← UInt16.toNat_inj, UInt16.toNat_ofNat_of_lt' small]
    exact eq_comm
  have success : UInt32.ofNat (fieldAt 8 4 data) = 0 ↔ fieldAt 8 4 data = 0 :=
    Header.ofNat_fieldAt_eq_iff
  have own : UInt32.ofNat (fieldAt 4 4 data) = session ↔ fieldAt 4 4 data = session.toNat :=
    Header.ofNat_fieldAt_eq_iff
  simp only [objection?, objections, List.findSome?_eq_none_iff, List.forall_mem_cons, id,
    ite_eq_right_iff, reduceCtorEq, imp_false, List.not_mem_nil, false_imp_iff, implies_true,
    and_true, Option.bind_eq_none_iff, Decidable.not_not, ne_eq, not_and, success, own]
  constructor
  · rintro ⟨long, known, same, status, enough, all, owner⟩
    rcases read : Command.ofCode? (.ofNat (fieldAt 0 2 data)) with _ | actual
    · exact absurd read known
    · rw [same actual read] at read
      exact ⟨by omega, echo.1 read, status, by omega, Decidable.or_iff_not_imp_left.2 owner⟩
  · rintro ⟨long, code, status, length, owner⟩
    rw [echo.2 code]
    refine ⟨by omega, nofun, ?_, status, by omega, by omega,
      Decidable.or_iff_not_imp_left.1 owner⟩
    rintro actual ⟨⟩
    rfl

/-- Bytes that are not accepted raise an objection. -/
theorem objection?_of_not_accepted (refused : ¬Accepted command session data) :
    ∃ fault, objection? command session data = some fault :=
  Option.ne_none_iff_exists'.1 fun none => refused (objection?_eq_none_iff.1 none)

end Reply

namespace Encapsulated

variable {π ρ : Type} [Payload π ρ] (request : Encapsulated π) (data : Bytes)

theorem decode_eq :
    decode request data =
      (Reply.objection? request.command request.session data).elim
        (Payload.decode request.payload (data.drop Header.size)) .error := by
  by_cases short : data.length < Header.size
  · simp [decode, Reply.split, Header.parse_of_short short, Reply.objection?, Reply.objections,
      short, bind, Except.bind]
  have long := Nat.le_of_not_lt short
  rcases read : Command.ofCode? (.ofNat (fieldAt 0 2 data)) with _ | actual
  · simp [decode, Reply.split, Header.parse_of_unknown long read, Reply.objection?,
      Reply.objections, short, read, bind, Except.bind]
  obtain ⟨header, parsed, echoed, length, session, status⟩ := Header.parse_of_known long read
  have size : header.frameSize = Header.size + fieldAt 2 2 data := by
    rw [Header.frameSize, length, UInt16.toNat_ofNat_of_lt' (fieldAt_lt 2 2 data)]
  simp only [decode, Reply.split, parsed, echoed, status, size, Reply.objection?,
    Reply.objections, List.findSome?_cons, List.findSome?_nil, id, short, read, bind, Except.bind,
    throw, throwThe, MonadExceptOf.throw, pure, Except.pure, if_false, reduceCtorEq,
    Option.bind_some, ne_eq, Status.ofCode_eq_success_iff]
  -- The checks are made in the order of the objections, so the cases are split in that order.
  by_cases same : actual = request.command
  case neg => simp [same]
  by_cases success : UInt32.ofNat (fieldAt 8 4 data) = 0
  case neg => simp [same, success]
  by_cases cut : data.length < Header.size + fieldAt 2 2 data
  case pos => simp [same, success, cut]
  by_cases more : Header.size + fieldAt 2 2 data < data.length
  case pos => simp [same, success, cut, more]
  by_cases other : request.session ≠ 0 ∧ UInt32.ofNat (fieldAt 4 4 data) ≠ request.session
  case pos => simp [same, success, cut, more, session, other]
  simp [same, success, cut, more, session, other]

variable {request data}

theorem decode_of_accepted
    (accepted : Reply.Accepted request.command request.session data) :
    decode request data = Payload.decode request.payload (data.drop Header.size) := by
  rw [decode_eq, Reply.objection?_eq_none_iff.2 accepted]
  rfl

theorem decode_of_objection {fault : FrameError}
    (found : Reply.objection? request.command request.session data = some fault) :
    decode request data = .error fault := by
  rw [decode_eq, found]
  rfl

variable (request data)

/-- Whatever the request carries, its reply is read from `body` by the payload. -/
def HandsOn (body : Bytes) : Prop :=
  ∀ {σ τ : Type} [Payload σ τ] (payload : σ),
    decode { request with payload } data = Payload.decode payload body

/-- The bytes after the header are handed on where the bytes are accepted, and nowhere else. -/
theorem handsOn_iff {body : Bytes} :
    request.HandsOn data body ↔
      Reply.Accepted request.command request.session data ∧ body = data.drop Header.size := by
  constructor
  · intro handsOn
    -- A payload that gives back what it reads tells what was handed on.
    let probe : Encapsulated Bytes := { request with payload := [] }
    have echoed : decode probe data = .ok body := handsOn []
    by_cases accepted : Reply.Accepted request.command request.session data
    · have read : decode probe data = .ok (data.drop Header.size) := decode_of_accepted accepted
      rw [read] at echoed
      exact ⟨accepted, (Except.ok.inj echoed).symm⟩
    · obtain ⟨fault, found⟩ := Reply.objection?_of_not_accepted accepted
      have failed : decode probe data = .error fault := decode_of_objection found
      rw [failed] at echoed
      cases echoed
  · rintro ⟨accepted, rfl⟩ σ τ _ payload
    exact decode_of_accepted accepted

/-- **A request takes for its reply what is one frame that answers its command with success, in its
session if it names one.** Just then the bytes after the header are handed on to its payload.
Otherwise the first objection is raised, whatever the payload is. The payload is as long as the
header says, so that taking so many bytes from behind the header takes them all. -/
theorem decode_exact :
    (∀ body, request.HandsOn data body ↔
      Reply.Accepted request.command request.session data ∧ body = data.drop Header.size) ∧
    (Reply.Accepted request.command request.session data →
      Request.decode request data = Payload.decode request.payload (data.drop Header.size)) ∧
    (¬Reply.Accepted request.command request.session data → ∃ fault,
      (Reply.objections request.command request.session data).findSome? id = some fault ∧
        Request.decode request data = .error fault) ∧
    ∀ header rest, Header.parse data = .ok (header, rest) → ¬data.length < header.frameSize →
      ¬header.frameSize < data.length →
      header.length.toNat ≤ rest.length ∧
        rest.take header.length.toNat = data.drop Header.size := by
  refine ⟨fun body => handsOn_iff request data, decode_of_accepted, fun refused => ?_,
    fun header rest parsed enough all => ?_⟩
  · obtain ⟨fault, found⟩ := Reply.objection?_of_not_accepted refused
    exact ⟨fault, found, decode_of_objection found⟩
  · obtain ⟨long, rfl, -, -⟩ := Header.parse_ok parsed
    have length : (data.drop Header.size).length = header.length.toNat := by
      rw [List.length_drop]
      simp only [Header.frameSize] at enough all
      omega
    rw [← length]
    exact ⟨Nat.le_refl _, List.take_length⟩

/-- That a request was refused counts before a length and a session that are wrong as well. -/
example :
    let request : Encapsulated Bytes :=
      { command := .sendRequestReply, session := 7, payload := [] }
    let reply : Header :=
      { Header.request .sendRequestReply 5 9 with status := .invalidCommand }
    Request.decode request reply.bytes = .error (.refused .invalidCommand) := rfl

end Encapsulated

end Enip
