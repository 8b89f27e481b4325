import Enip.Proofs.Transcripts

/-!
# What a connection enters in its ledger

Every operation on a watched connection is some entries in its ledger (`Client.Keeps`), and what
callers are told of the link is true after it if it was before (`Connection.Honest`). This is shown
for one operation after the other, from the calls that each makes, and then for every run
(`Client.run_keeps`).
-/

namespace Enip

/-! ## Connections and accounts -/

/-- What callers are told of the link: whether one is open, and whether it has a session. -/
structure Connection.Honest {ℓ δ : Type} (handshake : Bool) (connection : Connection ℓ δ) :
    Prop where
  isOpen : connection.isOpen = connection.link.isSome
  session : connection.session ≠ 0 ↔ handshake = true ∧ connection.link.isSome = true

/-- The account of a connection over watched links. -/
def Connection.account {ℓ δ : Type} (connection : Connection (Nat × ℓ) (Watched δ)) : Account :=
  ⟨connection.link.map fun link => (link.1, connection.session), connection.device.calls⟩

section

variable {ℓ δ : Type} {handshake : Bool}

theorem Connection.Honest.of_sameLink {before after : Connection ℓ δ}
    (honest : before.Honest handshake) (same : before.SameLink after) : after.Honest handshake := by
  refine ⟨?_, ?_⟩
  · rw [same.isOpen, same.link, honest.isOpen]
  · rw [same.session, same.link]
    exact honest.session

/-- There is no session without a link. -/
theorem Connection.Honest.session_eq_zero {connection : Connection ℓ δ}
    (honest : connection.Honest handshake) (unlinked : connection.link = none) :
    connection.session = 0 := by
  refine Classical.byContradiction fun nonzero => ?_
  have held := (honest.session.1 nonzero).2
  rw [unlinked] at held
  cases held

theorem Connection.Honest.start (device : δ) :
    (Connection.start device : Connection ℓ δ).Honest handshake :=
  ⟨rfl, by simp [Connection.start]⟩

variable {connection : Connection (Nat × ℓ) (Watched δ)} {link : Nat × ℓ}

theorem Connection.account_of_link (held : connection.link = some link) :
    connection.account = ⟨some (link.1, connection.session), connection.device.calls⟩ := by
  rw [Connection.account, held]
  rfl

theorem Connection.account_of_none (unlinked : connection.link = none) :
    connection.account = ⟨none, connection.device.calls⟩ := by
  rw [Connection.account, unlinked]
  rfl

end

/-- The forms that a request can take: it may be moved from session to session. -/
inductive Rebound {α ρ : Type} [Request α ρ] (request : α) : α → Prop
  | same : Rebound request request
  | moved {sent : α} (session : SessionId) (rebound : Rebound request sent) :
    Rebound request (Request.rebind session sent)

theorem Rebound.trans {α ρ : Type} [Request α ρ] {first second third : α}
    (earlier : Rebound first second) (later : Rebound second third) : Rebound first third := by
  induction later with
  | same => exact earlier
  | moved session _ ih => exact ih.moved session

/-- Whatever form the request takes, its frame is a frame of callers. -/
def Called {α ρ : Type} [Request α ρ] (callers : Bytes → Prop) (request : α) : Prop :=
  ∀ sent, Rebound request sent → ∀ frame, Request.frame sent = .ok frame → callers frame

theorem called_true {α ρ : Type} [Request α ρ] (request : α) : Called (fun _ => True) request :=
  fun _ _ _ _ => trivial

theorem Called.of_rebound {α ρ : Type} [Request α ρ] {callers : Bytes → Prop} {request sent : α}
    (called : Called callers request) (rebound : Rebound request sent) : Called callers sent :=
  fun _ later => called _ (rebound.trans later)

namespace Client

variable {ℓ δ α ρ : Type} [Request α ρ] (client : Client ℓ δ) (link : Nat × ℓ) (request : α)
  (connection : Connection (Nat × ℓ) (Watched δ))

/-! ## The calls of an exchange -/

/-- From one state of the connection to another a link is used, and nothing else happens. -/
structure Uses (callers : Bytes → Prop) (link : Nat)
    (before after : Connection (Nat × ℓ) (Watched δ)) : Prop where
  sameLink : before.SameLink after
  calls : ∃ use, (∀ call ∈ use, InUse callers link call) ∧
    after.device.calls = before.device.calls ++ use

variable {callers : Bytes → Prop}

theorem Uses.trans {link : Nat} {first second third : Connection (Nat × ℓ) (Watched δ)}
    (earlier : Uses callers link first second) (later : Uses callers link second third) :
    Uses callers link first third := by
  obtain ⟨same, use, inUse, calls⟩ := earlier
  obtain ⟨same', more, inUse', calls'⟩ := later
  refine ⟨same.trans same', use ++ more, ?_, ?_⟩
  · intro call member
    rcases List.mem_append.1 member with former | latter
    · exact inUse call former
    · exact inUse' call latter
  · rw [calls', calls, List.append_assoc]

theorem transmit_uses (called : ∀ frame, Request.frame request = .ok frame → callers frame) :
    Uses callers link.1 connection (client.watched.transmit link request connection).2 := by
  refine ⟨client.watched.transmit_sameLink link request connection, ?_⟩
  rcases written : Request.frame request with fault | frame
  · have same := (client.watched.transmit_of_unwritten link request connection written).2
    refine ⟨[], nofun, ?_⟩
    rw [same, List.append_nil]
  · obtain ⟨outcome, -, calls⟩ := client.transmit_calls link request connection written
    refine ⟨_, ?_, calls⟩
    intro call member
    rw [List.mem_singleton.1 member]
    exact .sent (called frame written) outcome

theorem receive_uses :
    Uses callers link.1 connection (client.watched.receive link request connection).2 := by
  refine ⟨client.watched.receive_sameLink link request connection, ?_⟩
  obtain ⟨receptions, -, -, -, receives, -⟩ :=
    client.watched.receive_spec link request connection
  refine ⟨_, ?_, client.calls_of_receives link receives⟩
  intro call member
  obtain ⟨reception, -, rfl⟩ := List.mem_map.1 member
  exact .received reception

theorem exchange_uses (called : ∀ frame, Request.frame request = .ok frame → callers frame) :
    Uses callers link.1 connection (client.watched.exchange link request connection).2 := by
  have sent := client.transmit_uses link request connection called
  rcases transmitted : client.watched.transmit link request connection with ⟨error | ⟨⟩, waiting⟩
  all_goals rw [transmitted] at sent
  · rw [client.watched.exchange_of_unsent link request connection transmitted]
    exact sent
  · rw [client.watched.exchange_of_sent link request connection transmitted]
    exact sent.trans (client.receive_uses link request waiting)

/-! ## Opening and giving up -/

/-- From one state of the connection to another there are entries in its ledger, and in the end what
callers are told of the link is true. -/
structure Keeps (callers : Bytes → Prop) (before after : Connection (Nat × ℓ) (Watched δ)) :
    Prop where
  honest : after.Honest client.binding.handshake
  entries : Entries client.binding.handshake callers before.account after.account

variable {client link connection} {before after third : Connection (Nat × ℓ) (Watched δ)}

theorem Keeps.refl (honest : before.Honest client.binding.handshake) :
    client.Keeps callers before before :=
  ⟨honest, .refl⟩

theorem Keeps.trans (earlier : client.Keeps callers before after)
    (later : client.Keeps callers after third) : client.Keeps callers before third :=
  ⟨later.honest, earlier.entries.trans later.entries⟩

theorem Keeps.note (kept : client.Keeps callers before after) (event : Event) :
    client.Keeps callers before (after.note event) :=
  ⟨⟨kept.honest.isOpen, kept.honest.session⟩, kept.entries⟩

theorem Keeps.draw (kept : client.Keeps callers before after) :
    client.Keeps callers before after.draw :=
  ⟨⟨kept.honest.isOpen, kept.honest.session⟩, kept.entries⟩

theorem Keeps.sleep (kept : client.Keeps callers before after) (wait : Duration) :
    client.Keeps callers before (after.sleep wait) :=
  ⟨⟨kept.honest.isOpen, kept.honest.session⟩, kept.entries⟩

theorem Uses.keeps (uses : Uses callers link.1 before after) (held : before.link = some link)
    (honest : before.Honest client.binding.handshake) : client.Keeps callers before after := by
  obtain ⟨same, use, inUse, calls⟩ := uses
  refine ⟨honest.of_sameLink same, .single ?_⟩
  rw [Connection.account_of_link held, Connection.account_of_link (same.link.trans held),
    same.session, calls]
  exact .used inUse

variable (client connection)

theorem unlinked_honest {handshake : Bool} : connection.unlinked.Honest handshake :=
  ⟨rfl, by simp [Connection.unlinked]⟩

variable {connection} (honest : before.Honest client.binding.handshake)

include honest

theorem close_keeps : client.Keeps callers before (client.watched.close before) := by
  rcases held : before.link with _ | link
  · rw [client.watched.close_of_none held]
    refine ⟨unlinked_honest before, ?_⟩
    rw [Connection.account_of_none held, Connection.account_of_none rfl]
    exact .refl
  · obtain ⟨farewell, outcome, made, -, ending⟩ := client.close_calls held
    have registered (handshake : client.binding.handshake = true) : before.session ≠ 0 :=
      honest.session.2 ⟨handshake, by rw [held]; rfl⟩
    refine ⟨(unlinked_honest before).of_sameLink (client.watched.close_sameLink before),
      .single ?_⟩
    rw [Connection.account_of_link held,
      Connection.account_of_none (client.watched.link_of_close before), made]
    exact .closed (ending registered) outcome

theorem connect_keeps : client.Keeps callers before (client.watched.connect before).2 := by
  have connects : Connects client.binding.handshake before _ _ := client.connect_connects
  rcases connected : client.watched.connect before with ⟨result, after⟩
  rw [connected] at connects
  cases connects with
  | kept _ => exact .refl honest
  | failed unlinked same opening made =>
    refine ⟨honest.of_sameLink same, .single ?_⟩
    rw [Connection.account_of_none unlinked, Connection.account_of_none (same.link.trans unlinked),
      made]
    exact opening.entry
  | opened unlinked held isOpen current opening made =>
    rw [honest.session_eq_zero unlinked, opening.session_eq] at current
    refine ⟨⟨?_, ?_⟩, .single ?_⟩
    · rw [isOpen, held]
      rfl
    · rw [current, held, opening.session_ne_zero_iff]
      simp
    · rw [Connection.account_of_none unlinked, Connection.account_of_link held, current, made]
      exact opening.entry

/-! ## Operations -/

omit honest in
/-- A link may be closed for any reason. -/
theorem Keeps.close (kept : client.Keeps callers before after) (event : Event) :
    client.Keeps callers before (client.watched.close (after.note event)) :=
  (kept.note event).trans (close_keeps client (kept.note event).honest)

omit honest in
theorem dropOversized_keeps {result : Except Error ρ} (kept : client.Keeps callers before after) :
    client.Keeps callers before (client.watched.dropOversized (result, after)).2 := by
  by_cases oversized : Oversized result
  · obtain ⟨event, dropped⟩ := client.watched.dropOversized_of_oversized after oversized
    rw [dropped]
    exact kept.close client event
  · rw [client.watched.dropOversized_of_not_oversized after oversized]
    exact kept

theorem write_keeps (called : ∀ frame, Request.frame request = .ok frame → callers frame) :
    client.Keeps callers before (client.watched.write request before).2 := by
  unfold write onLink
  split
  · exact .refl honest
  · rename_i link held
    exact (client.transmit_uses link request before called).keeps held honest

theorem read_keeps :
    client.Keeps callers before (client.watched.read request before).2 := by
  refine dropOversized_keeps client ?_
  split
  · exact .refl honest
  · rename_i link held
    exact (client.receive_uses link request before).keeps held honest

/-- An attempt sends the request, in one of its forms, and it comes back in that form. -/
theorem attempt_keeps (called : Called callers request) {result : Except Error ρ} {sent : α}
    (tried : client.watched.attempt request before = (result, sent, after)) :
    client.Keeps callers before after ∧ Rebound request sent := by
  have opening : client.Keeps callers before (client.watched.connect before).2 :=
    connect_keeps client honest
  rcases connected : client.watched.connect before with ⟨error | ⟨⟩, opened⟩
  all_goals rw [connected] at opening
  · rw [client.watched.attempt_of_error request connected] at tried
    cases tried
    exact ⟨opening, .same⟩
  · obtain ⟨link, held⟩ := client.watched.link_of_connect connected
    rw [client.watched.attempt_of_ok request connected held] at tried
    cases tried
    have rebound : Rebound request (client.watched.bound request before opened) := by
      unfold bound
      split
      · exact .moved _ .same
      · exact .same
    have used := client.exchange_uses link (client.watched.bound request before opened) opened
      (called _ rebound)
    exact ⟨opening.trans (used.keeps held opening.honest), rebound⟩

theorem keeps_of_executes {number more : Nat} {sent : α} {outcome : Outcome ρ}
    (called : Called callers request)
    (executes : Executes client.watched number more request before outcome sent after) :
    client.Keeps callers before after := by
  induction executes with
  | settled tried _ =>
    exact dropOversized_keeps client (attempt_keeps client _ honest called tried).1
  | exhausted tried => exact (attempt_keeps client _ honest called tried).1.close client _
  | aborted tried closing _ =>
    subst closing
    exact ((attempt_keeps client _ honest called tried).1.close client _).draw
  | @retried number _ _ _ _ _ _ closed _ fault wait _ tried closing _ _ ih =>
    obtain ⟨tried, rebound⟩ := attempt_keeps client _ honest called tried
    have shut := tried.close client (.attemptFailed number fault)
    rw [← closing] at shut
    have waiting := (shut.draw.note (.retrying wait fault)).sleep wait
    exact waiting.trans (ih waiting.honest (called.of_rebound rebound))

theorem execute_keeps (called : Called callers request) :
    client.Keeps callers before (client.watched.execute request before).2.2 :=
  keeps_of_executes client request honest called (client.watched.executes ..)

end Client

/-! ## Runs -/

/-- The frames that an operation may send on behalf of its caller. -/
def Operation.Frames {α ρ : Type} [Request α ρ] : Operation α → Bytes → Prop
  | .write request, frame => Request.frame request = .ok frame
  | .execute request, frame => ∃ sent, Rebound request sent ∧ Request.frame sent = .ok frame
  | .connect, _ | .read _, _ | .close, _ => False

namespace Client

variable {ℓ δ α ρ : Type} [Request α ρ] (client : Client ℓ δ) {callers : Bytes → Prop}
  {before : Connection (Nat × ℓ) (Watched δ)}

theorem after_keeps (operation : Operation α)
    (called : ∀ frame, operation.Frames frame → callers frame)
    (honest : before.Honest client.binding.handshake) :
    client.Keeps callers before (client.watched.after operation before) := by
  cases operation with
  | connect => exact connect_keeps client honest
  | write request => exact write_keeps client request honest called
  | read request => exact read_keeps client request honest
  | execute request =>
    exact execute_keeps client request honest
      fun sent rebound frame written => called frame ⟨sent, rebound, written⟩
  | close => exact close_keeps client honest

/-- **Every run of operations is entries in the ledger.** -/
theorem run_keeps (operations : List (Operation α))
    (called : ∀ operation ∈ operations, ∀ frame, operation.Frames frame → callers frame)
    (honest : before.Honest client.binding.handshake) :
    client.Keeps callers before (client.watched.run operations before) := by
  induction operations generalizing before with
  | nil => exact .refl honest
  | cons operation operations ih =>
    have first := client.after_keeps operation (called _ List.mem_cons_self) honest
    exact first.trans (ih (fun _ later => called _ (List.mem_cons_of_mem _ later)) first.honest)

/-- In the end no link is held. -/
theorem finish_keeps (honest : before.Honest client.binding.handshake) :
    client.Keeps callers before (client.watched.finish before) ∧
      (client.watched.finish before).link = none := by
  unfold finish
  split
  · exact ⟨close_keeps client honest, client.watched.link_of_close before⟩
  · rename_i shut
    refine ⟨.refl honest, Option.isNone_iff_eq_none.1 ?_⟩
    rw [← Option.not_isSome, ← honest.isOpen]
    simpa using shut

end Client

end Enip
