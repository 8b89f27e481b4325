import Enip.Proofs.ByHand
import Enip.Proofs.Rebinding
import Enip.Proofs.Retrying

/-!
# What a failed operation leaves

A failure leaves a connection in one of two states: closed (`Connection.Closed`), or with the link
that it held (`Connection.SameLink`). Which of the two it is depends on the operation and on the
step at which it failed, and cannot be told from the error alone: the same error may come from the
registration of a session, after which the connection is closed, and from the request itself, after
which it is not. `Client.Leaves` lists the cases, and `LeftBy` those of the last attempt of an
execution.

However an operation ends, every frame that it sends is one that was written whole (`Written`):
what is left in the buffer of a request that did not fit is not sent.
-/

namespace Enip

/-! ## Closed connections -/

/-- No link is held, and callers are told of none. -/
structure Connection.Closed {ℓ δ : Type} (connection : Connection ℓ δ) : Prop where
  link : connection.link = none
  isOpen : connection.isOpen = false
  session : connection.session = 0

namespace Connection

variable {ℓ δ : Type} {handshake : Bool} {before after : Connection ℓ δ}

theorem Closed.of_sameLink (closed : before.Closed) (same : before.SameLink after) : after.Closed :=
  ⟨same.link.trans closed.link, same.isOpen.trans closed.isOpen, same.session.trans closed.session⟩

theorem Closed.honest (closed : before.Closed) : before.Honest handshake := by
  refine ⟨?_, ?_⟩
  · rw [closed.isOpen, closed.link]
    rfl
  · rw [closed.session, closed.link]
    exact ⟨fun some => absurd rfl some, nofun⟩

/-- Where callers are told the truth, a connection without a link is closed. -/
theorem Honest.closed (honest : before.Honest handshake) (unlinked : before.link = none) :
    before.Closed := by
  refine ⟨unlinked, ?_, honest.session_eq_zero unlinked⟩
  rw [honest.isOpen, unlinked]
  rfl

end Connection

namespace Client

variable {ℓ δ α ρ : Type} [Request α ρ] (client : Client ℓ δ) {request : α}
  {connection after : Connection ℓ δ}

theorem close_closed (connection : Connection ℓ δ) : (client.close connection).Closed :=
  have same := client.close_sameLink connection
  ⟨same.link, same.isOpen, same.session⟩

theorem dropOversized_closed {result : Except Error ρ} (connection : Connection ℓ δ)
    (oversized : Oversized result) : (client.dropOversized (result, connection)).2.Closed := by
  obtain ⟨event, dropped⟩ := client.dropOversized_of_oversized connection oversized
  rw [dropped]
  exact client.close_closed _

variable {client}

/-! ## Operations by themselves -/

theorem closed_of_unconnected {error : Error} (honest : connection.Honest client.binding.handshake)
    (failed : client.connect connection = (.error error, after)) : after.Closed := by
  obtain ⟨unlinked, same⟩ := client.sameLink_of_unconnected failed
  exact (honest.closed unlinked).of_sameLink same

/-- Opening a link leaves callers with the truth. -/
theorem honest_of_connect (honest : connection.Honest client.binding.handshake) :
    (client.connect connection).2.Honest client.binding.handshake := by
  -- This is known of watched links, and links can be watched from any state on.
  have related := connection.watched_related client
  have honest' : connection.watched.Honest client.binding.handshake :=
    ⟨by rw [Connection.watched, Option.isSome_map]; exact honest.isOpen,
      by rw [Connection.watched, Option.isSome_map]; exact honest.session⟩
  have kept : client.Keeps (fun _ => True) connection.watched _ := connect_keeps client honest'
  exact kept.honest.of_related (Simulation.connect_agree related).2

theorem write_sameLink : connection.SameLink (client.write request connection).2 := by
  rcases held : connection.link with _ | handle
  · rw [client.write_of_none request held]
  · rw [client.write_of_link request held]
    exact client.transmit_sameLink handle request connection

/-- Where it is a frame that cannot be written, nothing is sent. -/
theorem unwritten_of_write {fault : FrameError}
    (failed : client.write request connection = (.error (.frame fault), after)) :
    Request.frame request = .error fault ∧ after.device = connection.device := by
  rcases held : connection.link with _ | handle
  · rw [client.write_of_none request held] at failed
    cases failed
  · rw [client.write_of_link request held] at failed
    rcases written : Request.frame request with error | frame
    · obtain ⟨result, same⟩ := client.transmit_of_unwritten handle request connection written
      rw [failed] at result same
      cases result
      exact ⟨rfl, same⟩
    · have result := (client.transmit_of_written handle request connection written).1
      rcases sending : client.binding.send handle frame connection.device with ⟨fault | ⟨⟩, device⟩
      all_goals
        rw [failed, sending] at result
        cases result

/-- A reply that is too large closes the link, and no other does. -/
theorem leaves_of_read {result : Except Error ρ}
    (done : client.read request connection = (result, after)) :
    (Oversized result → after.Closed) ∧ (¬Oversized result → connection.SameLink after) := by
  rcases held : connection.link with _ | handle
  · rw [client.read_of_none request held] at done
    cases done
    refine ⟨?_, fun _ => .refl connection⟩
    rintro ⟨size, capacity, large⟩
    cases large
  · have same := client.receive_sameLink handle request connection
    rcases heard : client.receive handle request connection with ⟨received, waiting⟩
    rw [heard] at same
    rw [client.read_of_link request held, heard] at done
    obtain rfl : received = result :=
      (client.dropOversized_result waiting).symm.trans (congrArg Prod.fst done)
    refine ⟨fun oversized => ?_, fun small => ?_⟩
    · have closed := client.dropOversized_closed waiting oversized
      rwa [done] at closed
    · rw [client.dropOversized_of_not_oversized waiting small] at done
      cases done
      exact same

end Client

/-! ## Executions -/

section

variable {ℓ δ α ρ : Type} [Request α ρ] (client : Client ℓ δ)

/-- What the last attempt of an execution leaves that fails for a frame. -/
structure LeftBy (last : Trial ℓ δ α) (after : Connection ℓ δ) : Prop where
  ended : after = (client.attempt last.request last.before).2.2
  /-- If it had a link, this is held, and callers are told of it and of its session. -/
  held : ∀ opened, client.connect last.before = (.ok (), opened) →
    (∃ handle, after.link = some handle) ∧ opened.SameLink after ∧ after.isOpen = true ∧
      (client.binding.handshake = true → after.session ≠ 0)
  /-- If no link could be opened, or no session registered on it, there is none. -/
  unopened : ∀ error opened, client.connect last.before = (.error error, opened) → after.Closed

variable {client}

theorem Trial.leftBy (last : Trial ℓ δ α)
    (honest : last.before.Honest client.binding.handshake) :
    LeftBy client last (client.attempt last.request last.before).2.2 where
  ended := rfl
  held opened done := by
    obtain ⟨handle, held⟩ := client.link_of_connect done
    rw [client.attempt_of_ok last.request done held]
    have same := client.exchange_sameLink handle
      (client.bound last.request last.before opened) opened
    have told := Client.honest_of_connect honest
    rw [done] at told
    have still := told.of_sameLink same
    exact ⟨⟨handle, same.link.trans held⟩, same, still.open_iff.2 ⟨handle, same.link.trans held⟩,
      fun handshake => still.session_iff.2 ⟨handshake, handle, same.link.trans held⟩⟩
  unopened error opened failed := by
    rw [client.attempt_of_error last.request failed]
    exact Client.closed_of_unconnected honest failed

/-- Callers are told the truth before the last attempt if they are before the first. -/
theorem Trials.honest_last {handshake : Bool} {number : Nat} {first : Trial ℓ δ α}
    {later : List (Trial ℓ δ α)} {waits : List Duration}
    (trials : Trials client number first later waits) (honest : first.before.Honest handshake) :
    (later.getLastD first).before.Honest handshake := by
  induction trials with
  | last _ _ => exact honest
  | @again number trial _ _ fault wait _ _ _ ih =>
    rw [List.getLastD_cons]
    obtain ⟨link, isOpen, session⟩ := trial.shut_next client number fault wait
    exact ih (Connection.Closed.honest ⟨link, isOpen, session⟩)

namespace Concludes

variable {limit number : Nat} {trial : Trial ℓ δ α} {outcome : Outcome ρ} {after : Connection ℓ δ}
  (concludes : Concludes client limit number trial outcome after)

include concludes

theorem closed_of_exhausted {attempts : Nat} {fault : LinkError}
    (exhausted : outcome = .failed (.exhausted attempts fault)) : after.Closed := by
  cases concludes with
  | settled _ =>
    have result := Outcome.of_failed exhausted
    rcases trial.error_cases client result with ⟨_, other⟩ | ⟨_, other⟩
    all_goals cases other
  | exhausted _ _ => exact client.close_closed _
  | aborted _ _ _ => cases exhausted

/-- An execution fails for a frame if its last attempt does. The link is closed if the reply was too
large, and otherwise left as it is. -/
theorem of_frame {fault : FrameError} (failed : outcome = .failed (.frame fault)) :
    trial.result client = .error (.frame fault) ∧
      (Oversized (trial.result client) → after.Closed) ∧
      (¬Oversized (trial.result client) →
        after = (client.attempt trial.request trial.before).2.2) := by
  cases concludes with
  | settled _ =>
    refine ⟨Outcome.of_failed failed, client.dropOversized_closed _, fun small => ?_⟩
    rw [client.dropOversized_of_not_oversized _ small]
  | exhausted _ _ => cases failed
  | aborted _ _ _ => cases failed

end Concludes

end

/-! ## Frames -/

/-- The frames that are sent on behalf of callers, or else to begin or to end a session: each is a
request that was written whole. -/
inductive Written (callers : Bytes → Prop) : Bytes → Prop
  | called {frame : Bytes} (called : callers frame) : Written callers frame
  | registering {frame : Bytes} (written : Request.frame RegisterSession.mk = .ok frame) :
    Written callers frame
  | ending {frame : Bytes} {session : SessionId}
    (written : Request.frame (unregisterSession session) = .ok frame) : Written callers frame

/-- From one list of calls to another no frame is sent that was not written whole. -/
def SendsWritten (callers : Bytes → Prop) (before after : List Call) : Prop :=
  ∃ new, after = before ++ new ∧
    ∀ link frame outcome, .sent link frame outcome ∈ new → Written callers frame

namespace SendsWritten

variable {callers : Bytes → Prop} {first second third : List Call}

theorem refl (calls : List Call) : SendsWritten callers calls calls :=
  ⟨[], (List.append_nil calls).symm, nofun⟩

theorem trans (earlier : SendsWritten callers first second)
    (later : SendsWritten callers second third) : SendsWritten callers first third := by
  obtain ⟨new, rfl, written⟩ := earlier
  obtain ⟨more, rfl, written'⟩ := later
  refine ⟨new ++ more, List.append_assoc .., fun link frame outcome member => ?_⟩
  rcases List.mem_append.1 member with former | latter
  · exact written link frame outcome former
  · exact written' link frame outcome latter

end SendsWritten

section

variable {handshake : Bool} {callers : Bytes → Prop} {link other : Nat} {frame : Bytes}
  {outcome : Except LinkError Unit} {calls : List Call}

theorem Registration.written {session : Option SessionId}
    (registration : Registration link session calls) (member : .sent other frame outcome ∈ calls) :
    Written callers frame := by
  rcases registration.call_cases member with ⟨_, same⟩ | ⟨_, same⟩
  · cases same
    exact .registering RegisterSession.frame_eq
  · cases same

theorem Farewell.written {session : SessionId} (farewell : Farewell handshake link session calls)
    (member : .sent other frame outcome ∈ calls) : Written callers frame := by
  cases farewell with
  | plain _ => cases member
  | registered _ _ =>
    cases List.mem_singleton.1 member
    exact .ending (frame_unregisterSession session)

/-- No entry sends anything else. -/
theorem Entry.sendsWritten {before after : Account} (entry : Entry handshake callers before after) :
    SendsWritten callers before.calls after.calls := by
  cases entry with
  | refused _ =>
    refine ⟨_, rfl, fun link frame outcome member => ?_⟩
    cases List.mem_singleton.1 member
  | unregistered _ denied _ =>
    refine ⟨_, rfl, fun link frame outcome member => ?_⟩
    rcases List.mem_cons.1 member with opened | later
    · cases opened
    · rcases List.mem_append.1 later with asked | shut
      · exact denied.written asked
      · cases List.mem_singleton.1 shut
  | opened beginning =>
    refine ⟨_, rfl, fun link frame outcome member => ?_⟩
    rcases List.mem_cons.1 member with opened | later
    · cases opened
    · cases beginning with
      | plain _ => cases later
      | registered _ granted => exact granted.written later
  | used inUse =>
    refine ⟨_, rfl, fun link frame outcome member => ?_⟩
    cases inUse _ member with
    | sent called _ => exact .called called
  | closed ending _ =>
    refine ⟨_, rfl, fun link frame outcome member => ?_⟩
    rcases List.mem_append.1 member with farewell | shut
    · exact ending.written farewell
    · cases List.mem_singleton.1 shut

theorem Entries.sendsWritten {before after : Account}
    (entries : Entries handshake callers before after) :
    SendsWritten callers before.calls after.calls := by
  induction entries with
  | refl => exact .refl before.calls
  | tail _ entry ih => exact ih.trans entry.sendsWritten

end

/-! ## Over watched links -/

/-- A link that is opened in vain is given up. -/
theorem Opening.shut_of_opened {handshake : Bool} {link opened : Nat} {error : Error}
    {calls : List Call} (opening : Opening handshake link (.error error) calls)
    (member : .opened opened ∈ calls) : ∃ outcome, .shut opened outcome ∈ calls := by
  cases opening with
  | refused _ => cases List.mem_singleton.1 member
  | unregistered _ denied outcome =>
    rcases List.mem_cons.1 member with first | later
    · cases first
      exact ⟨outcome, by simp⟩
    · have none := (denied.onLink.append (OnLink.shut link outcome) _ later).2
      cases none

namespace Client

variable {ℓ δ α ρ : Type} [Request α ρ] {client : Client ℓ δ} {request : α}
  {connection after : Connection ℓ δ} {watched : Connection (Nat × ℓ) (Watched δ)}
  (related : client.watching.Related watched connection)

include related

/-- The calls that were made in vain to open a link. -/
theorem opening_of_unconnected {error : Error}
    (failed : client.connect connection = (.error error, after)) :
    ∃ calls, Opening client.binding.handshake (links watched.device.calls) (.error error) calls ∧
      (client.watched.connect watched).2.device.calls = watched.device.calls ++ calls := by
  have connects : Connects client.binding.handshake watched _ _ := client.connect_connects
  have same := (Simulation.connect_agree related).1
  rw [failed] at same
  rw [same] at connects
  cases connects with
  | failed _ _ opening made => exact ⟨_, opening, made⟩

theorem calls_of_unwritten {fault : FrameError}
    (failed : client.write request connection = (.error (.frame fault), after)) :
    (client.watched.write request watched).2.device.calls = watched.device.calls := by
  have result := (Simulation.write_agree request related).1
  rw [failed] at result
  exact congrArg Watched.calls (unwritten_of_write (Prod.ext result rfl)).2

/-- A link that is held after an execution has the session that was registered on it. -/
theorem Keeps.registeredOn_execute {device : δ}
    (kept : client.Keeps (fun _ => True) (.start (.fresh device)) watched)
    {outcome : Outcome ρ} {sent : α}
    (executed : client.execute request connection = (outcome, sent, after))
    (handshake : client.binding.handshake = true) {handle : ℓ} (held : after.link = some handle) :
    ∃ link, (client.watched.execute request watched).2.2.link = some (link, handle) ∧
      RegisteredOn link after.session
        (client.watched.execute request watched).2.2.device.calls := by
  have still : client.Keeps (fun _ => True) watched _ :=
    execute_keeps client request kept.honest (called_true request)
  obtain ⟨-, -, same⟩ := Simulation.execute_agree request related
  rw [executed] at same
  obtain ⟨-, none⟩ | ⟨⟨link, _⟩, _, numbered, held', rfl⟩ := same.link_cases
  · cases none.symm.trans held
  · cases held'.symm.trans held
    rw [← same.session]
    exact ⟨link, numbered, (kept.trans still).registeredOn handshake numbered⟩

end Client

/-! ## All failures -/

namespace Client

variable {ℓ δ α β ρ σ : Type} [Request α ρ] [Request β σ] (client : Client ℓ δ)

/-- What a connection is left with after an operation that failed, and what a failed operation has
done to the device, which is told by the same connection over watched links. -/
structure Leaves (request : α) (connection : Connection ℓ δ)
    (watched : Connection (Nat × ℓ) (Watched δ)) : Prop where
  /-- Where no link could be opened, the connection is closed; a link that was opened and then not
  taken was given up. -/
  connect : ∀ error after, client.connect connection = (.error error, after) →
    after.Closed ∧ ∃ calls, Opening client.binding.handshake (links watched.device.calls)
        (.error error) calls ∧
      (client.watched.connect watched).2.device.calls = watched.device.calls ++ calls ∧
      ∀ link, .opened link ∈ calls → ∃ outcome, .shut link outcome ∈ calls
  /-- Where a request could not be sent, nothing is changed; where it could not be written, nothing
  was sent. -/
  write : ∀ error after, client.write request connection = (.error error, after) →
    connection.SameLink after ∧ ∀ fault, error = .frame fault →
      Request.frame request = .error fault ∧ after.device = connection.device ∧
      (client.watched.write request watched).2.device.calls = watched.device.calls
  /-- Where a reply was too large, the connection is closed; where there was no other reply, nothing
  is changed. -/
  read : ∀ error after, client.read request connection = (.error error, after) →
    (Oversized (.error error : Except Error ρ) → after.Closed) ∧
    (¬Oversized (.error error : Except Error ρ) → connection.SameLink after)
  exhausted : ∀ attempts fault sent after, client.execute request connection =
    (.failed (.exhausted attempts fault), sent, after) → after.Closed
  oversized : ∀ size capacity sent after, client.execute request connection =
    (.failed (.frame (.replyTooLarge size capacity)), sent, after) → after.Closed
  /-- Where an attempt failed for another frame, it was the last, and decides. A link that is left
  has the session that was registered on it. -/
  execute : ∀ fault sent after,
    client.execute request connection = (.failed (.frame fault), sent, after) →
    ¬Oversized (.error (.frame fault) : Except Error ρ) →
    (∃ later waits, Trials client 1 ⟨request, connection⟩ later waits ∧
      (later.getLastD ⟨request, connection⟩).result client = .error (.frame fault) ∧
      LeftBy client (later.getLastD ⟨request, connection⟩) after) ∧
    ∀ handle, client.binding.handshake = true → after.link = some handle →
      ∃ link, (client.watched.execute request watched).2.2.link = some (link, handle) ∧
        RegisteredOn link after.session (client.watched.execute request watched).2.2.device.calls

variable {client}

theorem Keeps.leaves {device : δ} {connection : Connection ℓ δ}
    {watched : Connection (Nat × ℓ) (Watched δ)}
    (kept : client.Keeps (fun _ => True) (.start (.fresh device)) watched)
    (related : client.watching.Related watched connection) (request : α) :
    client.Leaves request connection watched := by
  have honest : connection.Honest client.binding.handshake := kept.honest.of_related related
  obtain ⟨later, waits, trials, -, concludes⟩ := client.execute_concludes request connection
  refine ⟨fun error after failed => ?_, fun error after failed => ?_,
    fun error after failed => leaves_of_read failed, fun attempts fault sent after failed => ?_,
    fun size capacity sent after failed => ?_, fun fault sent after failed small => ?_⟩
  case refine_1 =>
    obtain ⟨calls, opening, made⟩ := opening_of_unconnected related failed
    exact ⟨closed_of_unconnected honest failed, calls, opening, made,
      fun link member => opening.shut_of_opened member⟩
  case refine_2 =>
    have same : connection.SameLink (client.write request connection).2 := write_sameLink
    rw [failed] at same
    refine ⟨same, ?_⟩
    rintro fault rfl
    obtain ⟨unwritten, device⟩ := unwritten_of_write failed
    exact ⟨unwritten, device, calls_of_unwritten related failed⟩
  all_goals rw [failed] at concludes
  · exact concludes.closed_of_exhausted rfl
  · obtain ⟨result, closed, -⟩ := concludes.of_frame rfl
    exact closed ⟨size, capacity, result⟩
  · obtain ⟨result, -, ended⟩ := concludes.of_frame rfl
    refine ⟨⟨later, waits, trials, result, ?_⟩, fun handle handshake held =>
      kept.registeredOn_execute related failed handshake held⟩
    obtain rfl : after = _ := ended (result ▸ small)
    exact Trial.leftBy _ (trials.honest_last honest)

variable (client)

/-- **Failed operations leave a defined state.** After any run, a connection on which an operation
fails is left closed or with the link that it held, by what failed; and every frame that any
operation sends, or that is sent when the connection is given up, was written whole. -/
theorem failed_leaves (device : δ) (operations : List (Operation β)) (request : α) :
    let connection := client.run operations (.start device)
    let watched := client.watched.run operations (.start (.fresh device))
    watched.device.device = connection.device ∧
    client.Leaves request connection watched ∧
    (∀ operation : Operation α, SendsWritten operation.Frames watched.device.calls
      (client.watched.after operation watched).device.calls) ∧
    SendsWritten (fun _ => False) watched.device.calls
      (client.watched.finish watched).device.calls := by
  intro connection watched
  have kept : client.Keeps (fun _ => True) (.start (Watched.fresh device)) watched :=
    client.run_keeps operations (fun _ _ _ _ => trivial) (.start _)
  have related : client.watching.Related watched connection := client.watched_run operations device
  refine ⟨related.device, kept.leaves related request, fun operation => ?_, ?_⟩
  · have done := client.after_keeps operation (fun _ called => called) kept.honest
    exact done.entries.sendsWritten
  · exact (client.finish_keeps kept.honest).1.entries.sendsWritten

end Client

/-- The same refusal, once of a session and once of a request: the connection is closed after the
first, and left with session 7 after the second. -/
theorem failed_leaves_refused :
    let client : Client Unit Rehearsal.Device :=
      ⟨Rehearsal.binding true, .device "device" 0, ⟨.ofMillis 500, Draws.cycle []⟩⟩
    let request : Encapsulated Bytes :=
      { command := .sendRequestReply, session := 0, payload := [2] }
    let refusal : Rehearsal.Answer := .deliver (some ⟨[], none, none, none, some 1, none, none⟩) []
    let before : Connection Unit Rehearsal.Device :=
      .start { Rehearsal.Device.mute with registers := [refusal] }
    let before' : Connection Unit Rehearsal.Device :=
      .start { Rehearsal.Device.mute with sessions := [7], replies := [refusal] }
    Outcome.ofResult (client.connect before).1 = .failed (.frame (.refused .invalidCommand)) ∧
      (client.connect before).2.Closed ∧
      (client.execute request before).1 = .failed (.frame (.refused .invalidCommand)) ∧
      (client.execute request before).2.2.isOpen = false ∧
      (client.execute request before').1 = .failed (.frame (.refused .invalidCommand)) ∧
      (client.execute request before').2.2.isOpen = true ∧
      ∃ link calls, RegisteredOn link 7 calls := by
  intro client request refusal before before'
  let none : List (Operation (Encapsulated Bytes)) := []
  have denied : Outcome.ofResult (client.connect before).1 =
      .failed (.frame (.refused .invalidCommand)) := by decide +kernel
  have refused : (client.execute request before').1 =
      .failed (.frame (.refused .invalidCommand)) := by decide +kernel
  have session : (client.execute request before').2.2.session = 7 := by decide +kernel
  have small : ¬Oversized (.error (.frame (.refused .invalidCommand)) : Except Error Bytes) := by
    rintro ⟨_, _, ⟨⟩⟩
  have held : (client.execute request before').2.2.link = some () := by decide +kernel
  have leaves : client.Leaves request before _ :=
    (client.failed_leaves before.device none request).2.1
  have leaves' : client.Leaves request before' _ :=
    (client.failed_leaves before'.device none request).2.1
  have failed : client.execute request before' = (.failed (.frame (.refused .invalidCommand)),
      (client.execute request before').2.1, (client.execute request before').2.2) := by
    rw [← refused]
  obtain ⟨link, -, registered⟩ := (leaves'.execute _ _ _ failed small).2 () rfl held
  refine ⟨denied, (leaves.connect _ (client.connect before).2
    (Prod.ext (Outcome.of_failed denied) rfl)).1, ?_, ?_, refused, ?_, link, _,
    session ▸ registered⟩
  all_goals decide +kernel

end Enip
