import Enip.Proofs.Handshake
import Enip.Proofs.Lifecycle
import Enip.Proofs.Retrying

/-!
# Frames that are cut short

A reply is read twice over: the receiving loop finds its size in the bytes that have come, and takes
no reply before it is as long as that; whoever reads the reply finds the size in the header, and
refuses what is shorter. The two sizes are the same (`Header.parse_ok`), so that bytes which the
loop has let through are never refused for being too few (`Reply.objection_ne_truncated`). For an
ordinary request it follows that nothing is refused so (`Sated`). The reply to the request for a
session has a payload of its own, which may be too short although the frame is whole
(`RegisterSession.decode_truncated`); a connection reports that, and nothing else, as a frame that
was cut short (`Client.truncated_only_registering`).
-/

namespace Enip

/-! ## Bytes that are enough -/

section

variable {command : Command} {session : SessionId} {data : Bytes} {expected actual : Nat}

/-- Bytes that are as many as they announce are not too few. -/
theorem Reply.objection_ne_truncated (enough : frameSize data ≤ data.length) :
    objection? command session data ≠ some (.truncated expected actual) := by
  intro found
  have long : Header.size ≤ data.length := Nat.le_trans (size_le_frameSize data) enough
  rw [frameSize_of_le long] at enough
  obtain ⟨objection, member, raised⟩ := List.exists_of_findSome?_eq_some found
  cases raised
  -- Two of the objections are of this kind, and neither is raised.
  simp only [objections, List.mem_cons, List.not_mem_nil, or_false, eq_comm (a := some _),
    if_neg (Nat.not_lt_of_le long), if_neg (Nat.not_lt_of_le enough)] at member
  rcases member with short | unknown | other | refused | cut | more | foreign
  · cases short
  · split at unknown <;> cases unknown
  · obtain ⟨command, -, other⟩ := Option.bind_eq_some_iff.1 other
    split at other <;> cases other
  · split at refused <;> cases refused
  · cases cut
  · split at more <;> cases more
  · split at foreign <;> cases foreign

theorem Reply.split_ne_truncated (enough : frameSize data ≤ data.length) :
    split data command ≠ .error (.truncated expected actual) :=
  fun refused => objection_ne_truncated enough (split_error_iff.1 refused)

/-- Where there are bytes enough, it is only for its payload that the reply to the request for a
session can be too short. -/
theorem RegisterSession.decode_truncated (enough : frameSize data ≤ data.length)
    (failed : decode data = .error (.truncated expected actual)) :
    expected = 28 ∧ actual = data.length ∧ 24 ≤ actual ∧ actual ≤ 27 ∧
      ∃ header payload, Reply.split data .registerSession = .ok (header, payload) ∧
        payload.length < 4 := by
  rcases taken : Reply.split data .registerSession with fault | ⟨header, payload⟩
  · rw [decode_of_split_error taken] at failed
    cases failed
    exact absurd taken (Reply.split_ne_truncated enough)
  · obtain ⟨short, rfl, rfl⟩ := (decode_truncated_iff taken).1 failed
    obtain ⟨whole, rfl, -⟩ := Reply.split_ok taken
    have long : 24 ≤ data.length := whole.header
    have cut : data.length - 24 < 4 := by
      rwa [List.length_drop] at short
    exact ⟨rfl, rfl, long, by omega, header, _, rfl, short⟩

end

/-- Writing and reading a payload does not fail for want of bytes. -/
structure Payload.Sated (π : Type) {ρ : Type} [Payload π ρ] : Prop where
  written : ∀ (payload : π) buffer expected actual,
    (Payload.encode payload buffer).1 ≠ .error (.truncated expected actual)
  read : ∀ (payload : π) body expected actual,
    Payload.decode payload body ≠ .error (.truncated expected actual)

theorem Payload.sated_unit : Payload.Sated Unit where
  written payload buffer expected actual failed := by cases failed
  read payload body expected actual failed := by cases failed

theorem Payload.sated_bytes : Payload.Sated Bytes where
  written payload buffer expected actual failed := by
    obtain ⟨requested, large⟩ := buffer.put_error failed
    cases large
  read payload body expected actual failed := by cases failed

/-- Requests do not fail for want of bytes, neither when they are written, nor when as many bytes of
a reply have come as there are to be. -/
structure Sated (α : Type) {ρ : Type} [Request α ρ] : Prop where
  written : ∀ (request : α) expected actual,
    Request.frame request ≠ .error (.truncated expected actual)
  read : ∀ (request : α) data expected actual, Request.replySize request data ≤ data.length →
    Request.decode request data ≠ .error (.truncated expected actual)

theorem Encapsulated.sated {π ρ : Type} [Payload π ρ] (payloads : Payload.Sated π) :
    Sated (Encapsulated π) where
  written request expected actual unwritten := by
    rcases frame_error unwritten with ⟨requested, large⟩ | ⟨buffer, failed⟩
    · cases large
    · exact payloads.written request.payload buffer expected actual failed
  read request data expected actual enough failed := by
    change Encapsulated.decode request data = _ at failed
    rcases found : Reply.objection? request.command request.session data with _ | fault
    · rw [decode_of_accepted (Reply.objection?_eq_none_iff.1 found)] at failed
      exact payloads.read _ _ expected actual failed
    · rw [decode_of_objection found] at failed
      cases failed
      exact Reply.objection_ne_truncated enough found

/-! ## Exchanges -/

section

variable {α ρ : Type} [Request α ρ] {request : α} {receptions : List Reception}
  {result : Except Error ρ} {expected actual : Nat}

theorem Heard.ne_truncated (sated : Sated α) (heard : Heard request receptions result) :
    result ≠ .error (.frame (.truncated expected actual)) := by
  rintro rfl
  rcases heard.frame_cases with ⟨size, capacity, large⟩ | ⟨enough, failed⟩
  · cases large
  · exact sated.read request _ expected actual enough failed

theorem Exchanged.ne_truncated {link : Nat} {calls : List Call} (sated : Sated α)
    (exchanged : Exchanged link request result calls) :
    result ≠ .error (.frame (.truncated expected actual)) := by
  cases exchanged with
  | unwritten unwritten =>
    intro same
    cases same
    exact sated.written request expected actual unwritten
  | unsent _ _ => nofun
  | sent _ heard => exact heard.ne_truncated sated

end

/-! ## Registrations that are cut short -/

/-- On a link, by these calls, a session was asked for in vain: the reply is whole, but its payload
is too short. -/
structure CutShort (expected actual link : Nat) (registration : List Call) : Prop where
  /-- The reply was to have a payload of four bytes. -/
  expected : expected = 28
  least : 24 ≤ actual
  most : actual ≤ 27
  /-- It is what was received after the request was sent. -/
  reply : ∃ receptions header payload, registration =
      .sent link RegisterSession.bytes (.ok ()) :: receptions.map (.received link) ∧
    Reply.split (brought receptions) .registerSession = .ok (header, payload) ∧
    payload.length < 4 ∧ actual = (brought receptions).length

/-- The last thing that happened from one list of calls to another is that a link was opened, and
was given up again because the reply that was to register a session on it was too short. -/
def EndsCutShort (expected actual : Nat) (before after : List Call) : Prop :=
  ∃ more link registration outcome,
    after = before ++ (more ++ .opened link :: (registration ++ [.shut link outcome])) ∧
    CutShort expected actual link registration

theorem EndsCutShort.sooner {expected actual : Nat} {before later after more : List Call}
    (cut : EndsCutShort expected actual later after) (grown : later = before ++ more) :
    EndsCutShort expected actual before after := by
  obtain ⟨between, link, registration, outcome, rfl, short⟩ := cut
  refine ⟨more ++ between, link, registration, outcome, ?_, short⟩
  rw [grown, List.append_assoc, List.append_assoc]

section

variable {expected actual link : Nat} {calls : List Call} {handshake : Bool}

theorem Exchanged.cutShort (exchanged : Exchanged link RegisterSession.mk
      (.error (.frame (.truncated expected actual)) : Except Error SessionId) calls) :
    CutShort expected actual link calls := by
  cases exchanged with
  | unwritten unwritten =>
    rw [RegisterSession.frame_eq] at unwritten
    cases unwritten
  | @sent frame written receptions _ heard =>
    rw [RegisterSession.frame_eq] at written
    cases written
    rcases heard.frame_cases with ⟨size, capacity, large⟩ | ⟨enough, failed⟩
    · cases large
    · obtain ⟨whole, length, least, most, header, payload, taken, short⟩ :=
        RegisterSession.decode_truncated enough failed
      exact ⟨whole, least, most, receptions, header, payload, rfl, taken, short, length⟩

/-- Opening a link fails so for its registration only. -/
theorem Opening.cutShort {before : List Call} (opening : Opening handshake link
      (.error (.frame (.truncated expected actual))) calls) :
    EndsCutShort expected actual before (before ++ calls) := by
  cases opening with
  | unregistered _ denied outcome => exact ⟨[], link, _, outcome, rfl, denied.cutShort⟩

variable {ℓ δ α ρ : Type} [Request α ρ] {before after : Connection (Nat × ℓ) (Watched δ)}

theorem Connects.cutShort
    (connects : Connects handshake before (.error (.frame (.truncated expected actual))) after) :
    EndsCutShort expected actual before.device.calls after.device.calls := by
  cases connects with
  | failed _ _ opening made =>
    rw [made]
    exact opening.cutShort

theorem Tries.cutShort (sated : Sated α) {request sent : α} (tries : Tries handshake request before
      (.error (.frame (.truncated expected actual)) : Except Error ρ) sent after) :
    EndsCutShort expected actual before.device.calls after.device.calls := by
  cases tries with
  | unopened _ _ opening made =>
    rw [made]
    exact opening.cutShort
  | opened _ _ _ _ asked _ => exact absurd rfl (asked.ne_truncated sated)
  | kept _ _ asked _ => exact absurd rfl (asked.ne_truncated sated)

/-- An execution fails so if its last attempt does. -/
theorem Client.cutShort_of_executes {client : Client ℓ δ} (sated : Sated α) {number more : Nat}
    {request sent : α} {outcome : Outcome ρ}
    (executes : Executes client.watched number more request before outcome sent after)
    (failed : outcome = .failed (.frame (.truncated expected actual))) :
    EndsCutShort expected actual before.device.calls after.device.calls := by
  induction executes with
  | settled tried _ =>
    have result := Outcome.of_failed failed
    subst result
    have small : ¬Oversized (.error (.frame (.truncated expected actual)) : Except Error ρ) := by
      rintro ⟨_, _, ⟨⟩⟩
    rw [client.watched.dropOversized_of_not_oversized _ small]
    exact (client.attempt_tries _ tried).cutShort sated
  | exhausted _ => cases failed
  | aborted _ _ _ => cases failed
  | @retried number _ _ _ _ first tired _ _ fault _ _ tried closing _ _ ih =>
    obtain ⟨own, -, made⟩ := (client.attempt_tries _ tried).asks
    obtain ⟨more, -, shut⟩ := client.close_quiet (tired.note (.attemptFailed number fault))
    have grown : (tired.note (.attemptFailed number fault)).device.calls ++ more =
        first.device.calls ++ (own ++ more) := by
      rw [← List.append_assoc, ← made]
      rfl
    subst closing
    exact (ih failed).sooner (shut.trans grown)

end

/-! ## Connections -/

namespace Client

variable {ℓ δ α β ρ σ : Type} [Request α ρ] [Request β σ] (client : Client ℓ δ)

theorem read_ne_truncated (sated : Sated α) (request : α) (connection : Connection ℓ δ)
    (expected actual : Nat) : (client.read request connection).1 ≠
      (.error (.frame (.truncated expected actual)) : Except Error ρ) := by
  rcases held : connection.link with _ | handle
  · rw [client.read_of_none request held]
    nofun
  · rw [client.read_of_link request held, client.dropOversized_result]
    obtain ⟨receptions, filled, longer, fills, -, result⟩ :=
      client.receive_spec handle request connection
    have heard : Heard request receptions (client.receive handle request connection).1 :=
      ⟨filled, longer, fills, result⟩
    exact heard.ne_truncated sated

/-- A connection does not report for a request of this type that bytes are missing, unless it is for
a session that was to be registered for it. -/
structure ReadsWhole (α : Type) {ρ : Type} [Request α ρ] (connection : Connection ℓ δ)
    (watched : Connection (Nat × ℓ) (Watched δ)) : Prop where
  read : ∀ (request : α) expected actual, (client.read request connection).1 ≠
    (.error (.frame (.truncated expected actual)) : Except Error ρ)
  /-- An execution that fails so ends with a registration that does. -/
  execute : ∀ (request : α) expected actual sent after, client.execute request connection =
      (.failed (.frame (.truncated expected actual)), sent, after) →
    EndsCutShort expected actual watched.device.calls
      (client.watched.execute request watched).2.2.device.calls

variable {client} {connection : Connection ℓ δ} {watched : Connection (Nat × ℓ) (Watched δ)}

theorem readsWhole (sated : Sated α) (related : client.watching.Related watched connection) :
    client.ReadsWhole α connection watched where
  read request := client.read_ne_truncated sated request connection
  execute request expected actual sent after failed := by
    have same := (Simulation.execute_agree request related).1
    rw [failed] at same
    exact cutShort_of_executes sated (client.watched.executes ..) same

variable (client)

/-- **No reply is read before all of it is there.** The receiving loop hands on no fewer bytes than
they announce, by the count that is used when they are read. So after any run it is never reported
that bytes are missing of the reply to a request that carries bytes or nothing; it is reported of a
reply which was to register a session on a new link, if its payload has less than four bytes. -/
theorem truncated_only_registering (device : δ) (operations : List (Operation β)) :
    let connection := client.run operations (.start device)
    let watched := client.watched.run operations (.start (.fresh device))
    watched.device.device = connection.device ∧
    (∀ handle buffer (longer : FrameBuffer) before after,
      fillFrame client.binding handle frameSize buffer before = (.ok (), longer, after) →
      frameSize longer.bytes ≤ longer.bytes.length) ∧
    (∀ data header rest, Header.parse data = .ok (header, rest) →
      frameSize data = header.frameSize) ∧
    (∀ expected actual after,
      client.connect connection = (.error (.frame (.truncated expected actual)), after) →
      EndsCutShort expected actual watched.device.calls
        (client.watched.connect watched).2.device.calls) ∧
    client.ReadsWhole (Encapsulated Bytes) connection watched ∧
    client.ReadsWhole (Encapsulated Unit) connection watched := by
  intro connection watched
  have related : client.watching.Related watched connection := client.watched_run operations device
  refine ⟨related.device, fun handle buffer longer before after whole => ?_,
    fun data header rest parsed => (Header.parse_ok parsed).2.2.1.symm,
    fun expected actual after failed => ?_, readsWhole (Encapsulated.sated Payload.sated_bytes)
    related, readsWhole (Encapsulated.sated Payload.sated_unit) related⟩
  · obtain ⟨receptions, fills, -⟩ := fillFrame_spec client.binding handle frameSize buffer before
    rw [whole] at fills
    exact fills.le_size
  · have connects : Connects client.binding.handshake watched _ _ := client.connect_connects
    have same := (Simulation.connect_agree related).1
    rw [failed] at same
    rw [same] at connects
    exact connects.cutShort

end Client

/-- A session is asked for, and the reply has no option flags. -/
theorem truncated_only_registering_flags :
    let client : Client Unit Rehearsal.Device :=
      ⟨Rehearsal.binding true, .device "device" 0, ⟨.ofMillis 500, Draws.cycle []⟩⟩
    let reply : Rehearsal.Answer := .deliver (some ⟨[1, 0], none, none, none, none, none, none⟩) []
    let connection : Connection Unit Rehearsal.Device :=
      .start { Rehearsal.Device.mute with registers := [reply] }
    Outcome.ofResult (client.connect connection).1 = .failed (.frame (.truncated 28 26)) ∧
      ∃ calls, EndsCutShort 28 26 [] calls := by
  intro client reply connection
  have failed : Outcome.ofResult (client.connect connection).1 =
      .failed (.frame (.truncated 28 26)) := by decide +kernel
  let none : List (Operation (Encapsulated Bytes)) := []
  obtain ⟨-, -, -, connect, -⟩ := client.truncated_only_registering connection.device none
  exact ⟨failed, _, connect 28 26 (client.connect connection).2
    (Prod.ext (Outcome.of_failed failed) rfl)⟩

end Enip
