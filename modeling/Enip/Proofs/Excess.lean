import Enip.Proofs.EmptyDatagrams
import Enip.Proofs.RoundTrip

/-!
# More bytes than a reply announces

A receive takes a datagram off the socket whole, but keeps only the part of it for which the buffer
has space. What the receiving loop makes of datagrams depends on the bytes they hold together
(`endOf`), and on no more than 600 of these (`endOf_take`): the loop ends with a frame if the bytes
are enough for what they announce and it fits, with the error for a frame that is too large if they
fill the buffer, and otherwise because there is nothing more to receive.

Bytes after the announced end are an error where they come into the buffer, or where the frame is
too large for it. There is one size of which neither is so. A frame of 600 bytes just fits, and
leaves no space in which anything behind it could be seen: what follows it in its last datagram is
lost, and the frame is read as if nothing had (`Reported.unseen`, `read_of_full`). With this
exception `Datagram.excess_reported` says that a reply is one whole frame.
-/

namespace Enip

/-! ## Objections to bytes that are too many -/

/-- The header of a reply to `command` shows that it is none, by what it says of the command or of
the success. -/
inductive Reply.Disowned (command : Command) (data : Bytes) : FrameError → Prop
  | unknown (none : Command.ofCode? (.ofNat (fieldAt 0 2 data)) = none) :
    Disowned command data (.unknownCommand (.ofNat (fieldAt 0 2 data)))
  | other {actual : Command} (named : Command.ofCode? (.ofNat (fieldAt 0 2 data)) = some actual)
    (other : actual ≠ command) : Disowned command data (.unexpectedCommand command actual)
  | refused (failed : UInt32.ofNat (fieldAt 8 4 data) ≠ 0) :
    Disowned command data (.refused (.ofCode (.ofNat (fieldAt 8 4 data))))

/-- If there is more than was announced, then that is objected to, unless the header shows that
these bytes are no reply at all. -/
theorem Reply.objection?_of_excess (command : Command) (session : SessionId) {data : Bytes}
    (excess : frameSize data < data.length) :
    ∃ fault, objection? command session data = some fault ∧
      (fault = .trailing (frameSize data) data.length ∨ Disowned command data fault) := by
  have long : Header.size ≤ data.length :=
    Nat.le_of_lt (Nat.lt_of_le_of_lt (size_le_frameSize data) excess)
  rw [frameSize_of_le long] at excess ⊢
  have enough : ¬data.length < Header.size + fieldAt 2 2 data := Nat.lt_asymm excess
  simp only [objection?, objections, List.findSome?_cons, id, if_neg (Nat.not_lt_of_le long),
    if_neg enough, if_pos excess]
  rcases read : Command.ofCode? (.ofNat (fieldAt 0 2 data)) with _ | actual
  · exact ⟨_, rfl, .inr (.unknown read)⟩
  by_cases same : actual = command
  case neg => exact ⟨.unexpectedCommand command actual, by simp [same], .inr (.other read same)⟩
  by_cases success : UInt32.ofNat (fieldAt 8 4 data) = 0
  case neg =>
    exact ⟨.refused (.ofCode (.ofNat (fieldAt 8 4 data))), by simp [same, success],
      .inr (.refused success)⟩
  exact ⟨_, by simp [same, success], .inl rfl⟩

/-- What is read as the reply to a request is a whole frame, whatever the payload is. -/
theorem Encapsulated.whole_of_decode {π ρ : Type} [Payload π ρ] {request : Encapsulated π}
    {data : Bytes} {reply : ρ} (read : Request.decode request data = .ok reply) : Whole data := by
  rcases found : Reply.objection? request.command request.session data with _ | fault
  · obtain ⟨long, -, -, length, -⟩ := Reply.objection?_eq_none_iff.1 found
    refine ⟨long, ?_⟩
    rw [frameSize_of_le long, length]
    exact Nat.add_sub_cancel' long
  · have refused : Request.decode request data = .error fault := decode_of_objection found
    rw [refused] at read
    cases read

/-! ## What the buffer keeps -/

/-- The size that bytes announce is seen from those that there is space for. -/
theorem frameSize_take (bytes : Bytes) :
    frameSize (bytes.take FrameBuffer.capacity) = frameSize bytes := by
  by_cases long : bytes.length ≤ FrameBuffer.capacity
  · rw [List.take_of_length_le long]
  · refine frameSize_of_begins (List.take_prefix _ _) ?_
    rw [List.length_take]
    simp only [FrameBuffer.capacity] at long ⊢
    omega

/-- So is a field of the header. -/
theorem fieldAt_take {offset width : Nat} (within : offset + width ≤ FrameBuffer.capacity)
    (bytes : Bytes) : fieldAt offset width (bytes.take FrameBuffer.capacity) =
      fieldAt offset width bytes := by
  have narrow : min width (FrameBuffer.capacity - offset) = width := by omega
  rw [fieldAt, List.drop_take, List.take_take, narrow, fieldAt]

theorem Reply.Disowned.of_take {command : Command} {bytes : Bytes} {fault : FrameError}
    (disowned : Disowned command (bytes.take FrameBuffer.capacity) fault) :
    Disowned command bytes fault := by
  have code := fieldAt_take (show 0 + 2 ≤ FrameBuffer.capacity by decide) bytes
  have status := fieldAt_take (show 8 + 4 ≤ FrameBuffer.capacity by decide) bytes
  cases disowned with
  | unknown none =>
    rw [code] at none ⊢
    exact .unknown none
  | other named other =>
    rw [code] at named
    exact .other named other
  | refused failed =>
    rw [status] at failed ⊢
    exact .refused failed

/-- What was added to a buffer and then kept is what is kept of both together. -/
theorem FrameBuffer.bytes_extended_kept (buffer : FrameBuffer) (more : Bytes) :
    (buffer.extended ⟨more.take buffer.spare, (more.take buffer.spare).length⟩).bytes =
      (buffer.bytes ++ more).take capacity := by
  have held : buffer.bytes.length + buffer.spare = capacity := buffer.size_add_spare
  rw [buffer.bytes_extended_take, ← held, List.take_length_add_append]

/-- What follows the bytes that are kept makes no difference to what is kept of them. -/
theorem take_append_take (count : Nat) (bytes more : Bytes) :
    (bytes.take count ++ more).take count = (bytes ++ more).take count := by
  rw [List.take_append, List.take_append, List.take_take, Nat.min_self]
  by_cases long : bytes.length ≤ count
  · rw [List.take_of_length_le long]
  · have none : count - (bytes.take count).length = 0 := by
      rw [List.length_take]
      omega
    have none' : count - bytes.length = 0 := by omega
    rw [none, none']

namespace Datagram

variable {σ : Type}

/-! ## The receiving loop -/

/-- How the receiving loop ends by bytes that come in datagrams. -/
def endOf (timeout : Duration) (bytes : Bytes) : Except Error Unit :=
  if frameSize bytes ≤ min FrameBuffer.capacity bytes.length then .ok ()
  else if FrameBuffer.capacity ≤ bytes.length then
    .error (.frame (.replyTooLarge (frameSize bytes) FrameBuffer.capacity))
  else .error (.link (.timeout timeout))

/-- Bytes for which there is no space make no difference. -/
theorem endOf_take (timeout : Duration) (bytes : Bytes) :
    endOf timeout (bytes.take FrameBuffer.capacity) = endOf timeout bytes := by
  have full : FrameBuffer.capacity ≤ min FrameBuffer.capacity bytes.length ↔
      FrameBuffer.capacity ≤ bytes.length := by omega
  simp only [endOf, frameSize_take, List.length_take, full, Nat.min_self_assoc]

theorem endOf_append_take (timeout : Duration) (bytes more : Bytes) :
    endOf timeout (bytes.take FrameBuffer.capacity ++ more) = endOf timeout (bytes ++ more) := by
  rw [← endOf_take timeout (bytes ++ more), ← endOf_take, take_append_take]

/-- Where there is space, a receive takes datagrams off the socket up to the first that is not
empty. -/
theorem next?_eq_some {space : Nat} {inbox later : List Bytes} {bytes : Bytes}
    (found : next? space inbox = some (bytes, later)) :
    ∃ taken, inbox = taken ++ later ∧ bytes = taken.flatten.take space := by
  induction inbox with
  | nil => cases found
  | cons datagram inbox ih =>
    by_cases passed : datagram = [] ∧ space ≠ 0
    · rw [next?, if_pos passed] at found
      obtain ⟨taken, rfl, kept⟩ := ih found
      exact ⟨datagram :: taken, rfl, by simpa [passed.1] using kept⟩
    · rw [next?, if_neg passed] at found
      cases found
      exact ⟨[datagram], rfl, by simp⟩

/-- It finds nothing if all that wait are empty. -/
theorem next?_eq_none {space : Nat} {inbox : List Bytes} (nothing : next? space inbox = none) :
    inbox.flatten = [] := by
  induction inbox with
  | nil => rfl
  | cons datagram inbox ih =>
    by_cases passed : datagram = [] ∧ space ≠ 0
    · rw [next?, if_pos passed] at nothing
      simp [passed.1, ih nothing]
    · rw [next?, if_neg passed] at nothing
      cases nothing

variable {peer : Peer σ} {timeout : Duration} {socket next : Socket σ} {buffer : FrameBuffer}

theorem of_receive_error {fault : LinkError}
    (received : (binding peer).receive timeout buffer.space socket = (.error fault, next)) :
    fault = .timeout timeout ∧ next.inbox = [] ∧ socket.inbox.flatten = [] := by
  dsimp only [binding, receive] at received
  split at received <;> cases received
  rename_i nothing
  exact ⟨rfl, rfl, next?_eq_none nothing⟩

/-- A receive adds to the buffer what is kept of the datagrams that it takes, which is something
where there is space. -/
theorem of_receive_ok {delivery : Delivery}
    (received : (binding peer).receive timeout buffer.space socket = (.ok delivery, next)) :
    (buffer.spare ≠ 0 → delivery.claimed ≠ 0) ∧ ∃ taken, socket.inbox = taken ++ next.inbox ∧
      (buffer.extended delivery).bytes =
        (buffer.bytes ++ taken.flatten).take FrameBuffer.capacity := by
  dsimp only [binding, receive] at received
  split at received <;> cases received
  rename_i bytes later found
  rw [FrameBuffer.length_space] at found
  refine ⟨fun room none => ?_, ?_⟩
  · exact ne_nil_of_next? socket.inbox room found (List.eq_nil_of_length_eq_zero none)
  · obtain ⟨taken, inbox, rfl⟩ := next?_eq_some found
    exact ⟨taken, inbox, buffer.bytes_extended_kept taken.flatten⟩

/-- **The receiving loop sees the first 600 bytes of the datagrams that it takes.** -/
theorem taken_of_fills {longer : FrameBuffer} {receptions : List Reception}
    {result : Except Error Unit} {after : Socket σ}
    (fills : Fills frameSize buffer receptions result longer)
    (receives : Receives (binding peer) timeout socket receptions after)
    (short : buffer.size < frameSize buffer.bytes) :
    ∃ taken, socket.inbox = taken ++ after.inbox ∧
      longer.bytes = (buffer.bytes ++ taken.flatten).take FrameBuffer.capacity ∧
      result = endOf timeout (buffer.bytes ++ taken.flatten) := by
  have held (buffer : FrameBuffer) : buffer.bytes = buffer.bytes.take FrameBuffer.capacity :=
    (List.take_of_length_le buffer.fits).symm
  -- The buffer holds the first 600 bytes of those seen so far, and what is added to it is kept as
  -- if it were added to all of them (`take_append_take`).
  induction fills generalizing socket with
  | @full buffer full =>
    cases receives
    have size : buffer.bytes.length = FrameBuffer.capacity := by
      have := buffer.size_add_spare
      rwa [full] at this
    rw [FrameBuffer.size, size] at short
    refine ⟨[], rfl, ?_, ?_⟩
    · simpa using held buffer
    · simp [endOf, size, Nat.not_le_of_lt short]
  | @fault buffer room fault =>
    rcases receives with _ | ⟨first, ⟨⟩⟩
    obtain ⟨rfl, out, nothing⟩ := of_receive_error first
    have size : buffer.bytes.length < FrameBuffer.capacity := by
      have := buffer.size_add_spare
      simp only [FrameBuffer.size] at this
      omega
    refine ⟨socket.inbox, by simp [out], ?_, ?_⟩
    · simpa [nothing] using held buffer
    · have few : min FrameBuffer.capacity buffer.bytes.length < frameSize buffer.bytes :=
        Nat.lt_of_le_of_lt (Nat.min_le_right ..) short
      simp only [nothing, List.append_nil, endOf]
      rw [if_neg (Nat.not_le_of_lt few), if_neg (Nat.not_le_of_lt size)]
  | ended room none =>
    rcases receives with _ | ⟨first, ⟨⟩⟩
    exact absurd none ((of_receive_ok first).1 room)
  | @whole buffer room delivery _ enough =>
    rcases receives with _ | ⟨first, ⟨⟩⟩
    obtain ⟨-, taken, inbox, bytes⟩ := of_receive_ok first
    refine ⟨taken, inbox, bytes, ?_⟩
    rw [FrameBuffer.size, bytes, frameSize_take, List.length_take] at enough
    rw [endOf, if_pos enough]
  | @more buffer _ _ _ room delivery _ stillShort _ ih =>
    rcases receives with _ | ⟨first, rest⟩
    obtain ⟨-, taken, inbox, bytes⟩ := of_receive_ok first
    obtain ⟨later, inbox', kept, ended⟩ := ih rest stillShort
    have all : buffer.bytes ++ (taken ++ later).flatten =
        buffer.bytes ++ taken.flatten ++ later.flatten := by
      rw [List.flatten_append, List.append_assoc]
    refine ⟨taken ++ later, ?_, ?_, ?_⟩
    · rw [inbox, inbox', List.append_assoc]
    · rw [kept, bytes, all, take_append_take]
    · rw [ended, bytes, all, endOf_append_take]

/-! ## What is reported -/

section

variable {π ρ : Type} [Payload π ρ]

/-- What comes of datagrams that were taken for the reply to a request, by the bytes that they hold
together. -/
structure Reported (request : Encapsulated π) (bytes : Bytes) (result : Except Error ρ) : Prop where
  /-- A reply is read from one whole frame. If that fills the buffer, there may be more. -/
  exact : ∀ reply, result = .ok reply → Whole bytes ∨
    (frameSize bytes = FrameBuffer.capacity ∧ FrameBuffer.capacity < bytes.length)
  large : frameSize bytes < bytes.length → FrameBuffer.capacity < frameSize bytes →
    result = .error (.frame (.replyTooLarge (frameSize bytes) FrameBuffer.capacity))
  /-- It is an error if the frame fits and does not fill the buffer: so many bytes are trailing as
  came into the buffer, or the header is none of a reply. -/
  trailing : frameSize bytes < bytes.length → frameSize bytes < FrameBuffer.capacity →
    ∃ fault, result = .error (.frame fault) ∧
      (fault = .trailing (frameSize bytes) (min FrameBuffer.capacity bytes.length) ∨
        Reply.Disowned request.command bytes fault)
  /-- It makes no difference if the frame just fits. -/
  unseen : frameSize bytes = FrameBuffer.capacity → frameSize bytes < bytes.length →
    result = (Request.decode request (bytes.take FrameBuffer.capacity)).mapError .frame

variable {request : Encapsulated π} {bytes : Bytes}

/-- Where nothing was taken there is nothing to report. -/
theorem Reported.of_error (error : Error) :
    Reported request [] (.error error : Except Error ρ) where
  exact _ done := by cases done
  large excess := absurd excess (by decide)
  trailing excess := absurd excess (by decide)
  unseen _ excess := absurd excess (by decide)

/-- What is kept of the bytes is read once the loop has ended. -/
theorem reported_of_endOf (timeout : Duration) :
    Reported request bytes ((endOf timeout bytes).bind fun _ =>
      (Request.decode request (bytes.take FrameBuffer.capacity)).mapError .frame) := by
  have size := frameSize_take bytes
  have kept : (bytes.take FrameBuffer.capacity).length =
      min FrameBuffer.capacity bytes.length := List.length_take
  refine ⟨fun reply done => ?_, fun excess large => ?_, fun excess small => ?_,
    fun full excess => ?_⟩
  · by_cases enough : frameSize bytes ≤ min FrameBuffer.capacity bytes.length
    case neg =>
      rw [endOf, if_neg enough] at done
      split at done <;> cases done
    rw [endOf, if_pos enough] at done
    dsimp only [Except.bind] at done
    have whole : Whole (bytes.take FrameBuffer.capacity) := by
      rcases read : Request.decode request (bytes.take FrameBuffer.capacity) with fault | reply'
      · rw [read] at done
        cases done
      · exact Encapsulated.whole_of_decode read
    have announced := whole.announced
    rw [size, kept] at announced
    by_cases more : FrameBuffer.capacity < bytes.length
    · exact .inr ⟨by omega, more⟩
    · rw [List.take_of_length_le (Nat.le_of_not_lt more)] at whole
      exact .inl whole
  · rw [endOf, if_neg (by omega), if_pos (by omega)]
    rfl
  · have enough : frameSize bytes ≤ min FrameBuffer.capacity bytes.length := by omega
    have more : frameSize (bytes.take FrameBuffer.capacity) <
        (bytes.take FrameBuffer.capacity).length := by omega
    obtain ⟨fault, found, cause⟩ :=
      Reply.objection?_of_excess request.command request.session more
    refine ⟨fault, ?_, ?_⟩
    · have refused : Request.decode request (bytes.take FrameBuffer.capacity) = .error fault :=
        Encapsulated.decode_of_objection found
      rw [endOf, if_pos enough, refused]
      rfl
    · rw [size, kept] at cause
      exact cause.imp id Reply.Disowned.of_take
  · rw [endOf, if_pos (by omega)]
    rfl

/-! ### Clients -/

section Clients

variable (peer : Peer σ) (settings : Settings) (backoff : Backoff)

/-- Nothing is received while a link is given up. -/
theorem close_device (connection : Connection Duration (Socket σ)) :
    ((client peer settings backoff).close connection).device = connection.device := by
  rcases held : connection.link with _ | timeout
  · rw [(client peer settings backoff).close_of_none held]
    rfl
  · rw [(client peer settings backoff).close_of_link held]
    rfl

theorem dropOversized_device (result : Except Error ρ)
    (connection : Connection Duration (Socket σ)) :
    ((client peer settings backoff).dropOversized (result, connection)).2.device =
      connection.device := by
  by_cases oversized : Oversized result
  · obtain ⟨event, dropped⟩ :=
      (client peer settings backoff).dropOversized_of_oversized connection oversized
    rw [dropped]
    exact close_device peer settings backoff (connection.note event)
  · rw [(client peer settings backoff).dropOversized_of_not_oversized connection oversized]

/-- From one state of a connection to another, datagrams were taken off its socket, and this is what
came of them. -/
def Taken (request : Encapsulated π) (before : Connection Duration (Socket σ))
    (result : Except Error ρ) (after : Connection Duration (Socket σ)) : Prop :=
  ∃ taken, before.device.inbox = taken ++ after.device.inbox ∧
    Reported request taken.flatten result

theorem Taken.of_error {request : Encapsulated π} {before after : Connection Duration (Socket σ)}
    (same : after.device.inbox = before.device.inbox) (error : Error) :
    Taken request before (.error error : Except Error ρ) after :=
  ⟨[], same.symm, .of_error error⟩

theorem receive_taken (timeout : Duration) (request : Encapsulated π)
    (connection : Connection Duration (Socket σ)) :
    Taken request connection
      ((client peer settings backoff).receive timeout request connection).1
      ((client peer settings backoff).receive timeout request connection).2 := by
  obtain ⟨receptions, filled, longer, fills, receives, result⟩ :=
    (client peer settings backoff).receive_spec timeout request connection
  obtain ⟨taken, inbox, kept, rfl⟩ := taken_of_fills fills receives (by decide)
  have nothing : FrameBuffer.empty.bytes ++ taken.flatten = taken.flatten := rfl
  rw [nothing] at kept result
  rw [kept] at result
  rw [result]
  exact ⟨taken, inbox, reported_of_endOf timeout⟩

theorem read_taken (request : Encapsulated π) (connection : Connection Duration (Socket σ)) :
    Taken request connection ((client peer settings backoff).read request connection).1
      ((client peer settings backoff).read request connection).2 := by
  rcases held : connection.link with _ | timeout
  · rw [(client peer settings backoff).read_of_none request held]
    exact .of_error rfl _
  · obtain ⟨taken, inbox, reported⟩ :=
      receive_taken peer settings backoff timeout request connection
    rw [(client peer settings backoff).read_of_link request held]
    refine ⟨taken, ?_, ?_⟩
    · rw [dropOversized_device, inbox]
    · rwa [(client peer settings backoff).dropOversized_result]

/-- A link that could not be opened is not held. -/
theorem link_of_connect_error {error : Error} {connection opened : Connection Duration (Socket σ)}
    (failed : (client peer settings backoff).connect connection = (.error error, opened)) :
    opened.link = none := by
  rcases held : connection.link with _ | timeout
  · rcases dialled : dial peer settings connection.device with ⟨fault | timeout, socket⟩
    · rw [(client peer settings backoff).connect_of_refused held dialled] at failed
      cases failed
      exact held
    · rw [(client peer settings backoff).connect_of_dialled held dialled,
        (client peer settings backoff).adopt_of_plain rfl] at failed
      cases failed
  · rw [(client peer settings backoff).connect_of_link held] at failed
    cases failed

/-- The connection in an attempt, once the request is sent and nothing is received yet. -/
def asked (request : Encapsulated π) (connection : Connection Duration (Socket σ)) :
    Connection Duration (Socket σ) :=
  let client := client peer settings backoff
  (client.write request (client.connect connection).2).2

theorem attempt_taken (request : Encapsulated π) (connection : Connection Duration (Socket σ)) :
    Taken request (asked peer settings backoff request connection)
      ((client peer settings backoff).attempt request connection).1
      ((client peer settings backoff).attempt request connection).2.2 := by
  unfold asked
  rcases connected : (client peer settings backoff).connect connection with ⟨error | ⟨⟩, opened⟩
  · have unlinked := link_of_connect_error peer settings backoff connected
    rw [(client peer settings backoff).attempt_of_error request connected]
    dsimp only
    rw [connected, (client peer settings backoff).write_of_none request unlinked]
    exact .of_error rfl error
  · obtain ⟨timeout, held⟩ := (client peer settings backoff).link_of_connect connected
    -- There is no session that the request could be moved to.
    have same : (client peer settings backoff).bound request connection opened = request := rfl
    rw [(client peer settings backoff).attempt_of_ok request connected held, same]
    dsimp only
    rw [connected, (client peer settings backoff).write_of_link request held]
    rcases transmitted : (client peer settings backoff).transmit timeout request opened with
      ⟨error | ⟨⟩, waiting⟩
    · rw [(client peer settings backoff).exchange_of_unsent timeout request opened transmitted]
      exact .of_error rfl error
    · rw [(client peer settings backoff).exchange_of_sent timeout request opened transmitted]
      exact receive_taken peer settings backoff timeout request waiting

/-- **Excess bytes are reported, unless the frame before them fills the buffer.** When a reply is
read, and in every attempt of an execution, datagrams are taken off the socket one after the other.
If a reply comes of them, they are one whole frame when they are put together, or they begin with
one of 600 bytes. If they hold more than they announce, the call fails, with the error for trailing
bytes or for a reply too large where the header is that of a reply; but behind a frame of 600 bytes
they may hold anything. -/
theorem excess_reported (request : Encapsulated π) (connection : Connection Duration (Socket σ)) :
    let client := client peer settings backoff
    let run := client.execute request connection
    Taken request connection (client.read request connection).1
      (client.read request connection).2 ∧
    ∃ (later : List (Trial Duration (Socket σ) (Encapsulated π))) (waits : List Duration),
      Accounts client settings.attempts.toNat ⟨request, connection⟩ later waits run.1 run.2.2 ∧
      ∀ trial ∈ ⟨request, connection⟩ :: later,
        Taken trial.request (asked peer settings backoff trial.request trial.before)
          (trial.result client) (client.attempt trial.request trial.before).2.2 := by
  intro client run
  obtain ⟨later, waits, trials, within, concludes⟩ := client.execute_concludes request connection
  exact ⟨read_taken peer settings backoff request connection, later, waits,
    trials.accounts within concludes,
    fun trial _ => attempt_taken peer settings backoff trial.request trial.before⟩

/-- A frame that fills the buffer is received, and what follows it in its datagram is lost. -/
theorem receive_of_full (timeout : Duration) (request : Encapsulated π)
    {connection : Connection Duration (Socket σ)} {reply : Encapsulated Bytes}
    (full : reply.payload.length = 576) {excess : Bytes} {later : List Bytes}
    (waiting : connection.device.inbox = (reply.bytes ++ excess) :: later) :
    ((client peer settings backoff).receive timeout request connection).1 =
        (Request.decode request reply.bytes).mapError .frame ∧
      ((client peer settings backoff).receive timeout request connection).2.device.inbox =
        later := by
  have length : reply.bytes.length = FrameBuffer.empty.spare := by
    rw [reply.length_bytes, full]
    rfl
  have some : reply.bytes.length ≠ 0 := by
    rw [length]
    decide
  have whole : Whole reply.bytes := Encapsulated.whole_bytes (Nat.le_of_eq full)
  have received : (binding peer).receive timeout FrameBuffer.empty.space connection.device =
      (.ok ⟨reply.bytes, reply.bytes.length⟩, { connection.device with inbox := later }) := by
    have something : reply.bytes ++ excess ≠ [] := by
      intro none
      exact some (by rw [(List.append_eq_nil_iff.1 none).1, List.length_nil])
    dsimp only [binding, receive]
    rw [waiting, FrameBuffer.length_space, next?_of_ne_nil later something, List.take_left' length]
  have bytes : (FrameBuffer.empty.extended ⟨reply.bytes, reply.bytes.length⟩).bytes =
      reply.bytes := FrameBuffer.bytes_extended (Nat.le_of_eq length)
  have enough : frameSize (FrameBuffer.empty.extended ⟨reply.bytes, reply.bytes.length⟩).bytes ≤
      (FrameBuffer.empty.extended ⟨reply.bytes, reply.bytes.length⟩).size := by
    rw [FrameBuffer.size, bytes]
    exact Nat.le_of_eq whole.announced
  have fills := Fills.whole (show FrameBuffer.empty.spare ≠ 0 by decide) some enough
  obtain ⟨result, device⟩ := (client peer settings backoff).receive_of_fillFrame timeout request
    connection (fills.fillFrame_eq (.cons received .nil))
  refine ⟨?_, ?_⟩
  · rw [result, bytes]
    rfl
  · rw [device]

/-- So it is when a reply is read. -/
theorem read_of_full (request : Encapsulated π) {connection : Connection Duration (Socket σ)}
    {timeout : Duration} (held : connection.link = some timeout) {reply : Encapsulated Bytes}
    (full : reply.payload.length = 576) {excess : Bytes} {later : List Bytes}
    (waiting : connection.device.inbox = (reply.bytes ++ excess) :: later) :
    ((client peer settings backoff).read request connection).1 =
        (Request.decode request reply.bytes).mapError .frame ∧
      ((client peer settings backoff).read request connection).2.device.inbox = later := by
  obtain ⟨result, inbox⟩ := receive_of_full peer settings backoff timeout request full waiting
  rw [(client peer settings backoff).read_of_link request held]
  refine ⟨?_, ?_⟩
  · rw [(client peer settings backoff).dropOversized_result, result]
  · rw [dropOversized_device, inbox]

end Clients

end

/-- A peer that is found under every name, and answers every datagram with the same ones. -/
def answering (datagrams : List Bytes) : Peer Unit where
  lookup _ port state := (.ok [{ host := .v4 ⟨10, 0, 0, 1⟩, port }], state)
  connect _ state := (.ok (), state)
  take bytes state := (.ok (bytes.length, datagrams), state)

/-- A hundred bytes after a frame of 600 bytes go unnoticed, by hand and in an execution. -/
theorem excess_unseen :
    let request : Encapsulated Bytes :=
      { command := .sendRequestReply, session := 0, payload := [] }
    let reply : Encapsulated Bytes := { request with payload := List.replicate 576 1 }
    let datagram := reply.bytes ++ List.replicate 100 2
    let settings : Settings := .device "plc.local" 0
    let client := client (answering [datagram]) settings ⟨.ofMillis 500, Draws.cycle []⟩
    let fresh : Connection Duration (Socket Unit) := .start ⟨[], ()⟩
    let waiting := client.run [.connect, .write request] fresh
    (frameSize datagram = 600 ∧ datagram.length = 700) ∧
      waiting.device.inbox = [datagram] ∧
      (client.read request waiting).1 = .ok reply.payload ∧
      (client.read request waiting).2.device.inbox = [] ∧
      (client.execute request fresh).1 = .done reply.payload := by
  intro request reply datagram settings client fresh waiting
  have full : reply.payload.length = 576 := List.length_replicate
  have fits : reply.payload.length ≤ 576 := Nat.le_of_eq full
  have length : reply.bytes.length = FrameBuffer.capacity := by
    rw [reply.length_bytes, full]
    rfl
  have answered : Request.decode request reply.bytes = .ok reply.payload := by
    rw [Encapsulated.decode_bytes fits (show request.command = reply.command from rfl),
      if_neg fun named => named.1 rfl]
    rfl
  have inbox : waiting.device.inbox = [datagram] := rfl
  obtain ⟨received, -⟩ := receive_of_full (answering [datagram]) settings client.backoff
    settings.timeout request full inbox
  obtain ⟨result, after⟩ := read_of_full (answering [datagram]) settings client.backoff request
    (show waiting.link = some settings.timeout from rfl) full inbox
  rw [answered] at received result
  have done : (client.execute request fresh).1 = .done reply.payload := by
    let opened := client.after (.connect : Operation (Encapsulated Bytes)) fresh
    have connected : client.connect fresh = (.ok (), opened) := rfl
    have held : opened.link = some settings.timeout := rfl
    have sending : client.transmit settings.timeout request opened = (.ok (), waiting) := rfl
    have tried : client.attempt request fresh =
        (.ok reply.payload, request, (client.receive settings.timeout request waiting).2) := by
      have same : client.bound request fresh opened = request := rfl
      have reading : (client.receive settings.timeout request waiting).1 = .ok reply.payload :=
        received
      rw [client.attempt_of_ok request connected held, same,
        client.exchange_of_sent settings.timeout request opened sending, reading]
    rw [Client.execute, Client.executeFrom_of_settled 1 _ tried (by rintro ⟨_, ⟨⟩⟩)]
    rfl
  refine ⟨⟨?_, ?_⟩, inbox, result, after, done⟩
  · rw [← frameSize_take, List.take_left' length, (Encapsulated.whole_bytes fits).announced, length]
    rfl
  · rw [List.length_append, length, List.length_replicate]
    rfl

end Datagram

end Enip
