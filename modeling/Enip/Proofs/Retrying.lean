import Mathlib.Data.List.Forall2
import Enip.Proofs.Transcripts

/-!
# Retrying

An execution makes one attempt after the other. It ends with the first that does not fail for the
link, or with the last that the settings allow; between two attempts it closes the link and waits.

`Trials` are the attempts of an execution with the waits between them, and `Concludes` is what the
last of them leads to. Every execution is of this kind (`Client.trials_of_executes`). Attempts and
waits are counted by induction on trials, and `Asks` tells which of the attempts ask for a link;
`Client.execute_accounts` puts it together. Where one client simulates another, the attempts of the
one are those of the other (`Simulation.execute_tried`).
-/

namespace Enip

/-! ## Waits -/

/-- The wait that an event announces. -/
def Event.wait? : Event → Option Duration
  | retrying wait _ => some wait
  | _ => none

/-- The waits that were announced, in order. -/
def Connection.waits {ℓ δ : Type} (connection : Connection ℓ δ) : List Duration :=
  connection.log.filterMap Event.wait?

/-- From one state of a connection to another there was no wait and none was announced, and nothing
was drawn. -/
structure Connection.Unwaited {ℓ δ : Type} (before after : Connection ℓ δ) : Prop where
  drawn : after.drawn = before.drawn
  slept : after.slept = before.slept
  waits : after.waits = before.waits

namespace Connection

variable {ℓ δ : Type} {first second third : Connection ℓ δ}

theorem Unwaited.refl (connection : Connection ℓ δ) : connection.Unwaited connection :=
  ⟨rfl, rfl, rfl⟩

theorem Unwaited.trans (earlier : first.Unwaited second) (later : second.Unwaited third) :
    first.Unwaited third :=
  ⟨later.drawn.trans earlier.drawn, later.slept.trans earlier.slept,
    later.waits.trans earlier.waits⟩

theorem waits_note (connection : Connection ℓ δ) (event : Event) :
    (connection.note event).waits = connection.waits ++ event.wait?.toList := by
  simp only [Connection.waits, Connection.note, List.filterMap_append, List.filterMap_cons,
    List.filterMap_nil]
  cases event.wait? <;> rfl

theorem Unwaited.note (unwaited : first.Unwaited second) {event : Event}
    (other : event.wait? = none) : first.Unwaited (second.note event) := by
  refine ⟨unwaited.drawn, unwaited.slept, ?_⟩
  rw [waits_note, other, unwaited.waits]
  exact List.append_nil _

end Connection

namespace Client

variable {ℓ δ α ρ : Type} [Request α ρ] (client : Client ℓ δ) (handle : ℓ) (request : α)
  (connection : Connection ℓ δ)

theorem transmit_unwaited : connection.Unwaited (client.transmit handle request connection).2 := by
  unfold transmit
  split
  · exact ⟨rfl, rfl, rfl⟩
  · rename_i buffer _
    have noted : connection.Unwaited (connection.note (.sent buffer.bytes)) :=
      (Connection.Unwaited.refl connection).note rfl
    dsimp only
    split
    · exact ⟨noted.drawn, noted.slept, noted.waits⟩
    · exact ⟨noted.drawn, noted.slept, noted.waits⟩

theorem receive_unwaited : connection.Unwaited (client.receive handle request connection).2 := by
  unfold receive
  split
  · exact ⟨rfl, rfl, rfl⟩
  · rename_i buffer _ _
    have noted : connection.Unwaited (connection.note (.received buffer.bytes)) :=
      (Connection.Unwaited.refl connection).note rfl
    exact ⟨noted.drawn, noted.slept, noted.waits⟩

theorem exchange_unwaited : connection.Unwaited (client.exchange handle request connection).2 := by
  have sent := client.transmit_unwaited handle request connection
  rcases transmitted : client.transmit handle request connection with ⟨error | ⟨⟩, waiting⟩
  all_goals rw [transmitted] at sent
  · rw [client.exchange_of_unsent handle request connection transmitted]
    exact sent
  · rw [client.exchange_of_sent handle request connection transmitted]
    exact sent.trans (client.receive_unwaited handle request waiting)

theorem release_unwaited : connection.Unwaited (client.release handle connection) := by
  unfold release
  split
  · rename_i fault device _
    have same : connection.Unwaited { connection with device } := ⟨rfl, rfl, rfl⟩
    exact same.note rfl
  · exact ⟨rfl, rfl, rfl⟩

theorem endSession_unwaited (session : SessionId) :
    connection.Unwaited (client.endSession handle session connection) := by
  have sent := client.transmit_unwaited handle (unregisterSession session) connection
  unfold endSession
  split
  · split
    · rename_i failed
      rw [failed] at sent
      exact sent.note rfl
    · rename_i done
      rwa [done] at sent
  · exact .refl connection

theorem close_unwaited : connection.Unwaited (client.close connection) := by
  rcases held : connection.link with _ | handle
  · rw [client.close_of_none held]
    exact ⟨rfl, rfl, rfl⟩
  · rw [client.close_of_link held]
    have started : connection.Unwaited connection.unlinked := ⟨rfl, rfl, rfl⟩
    have ended := client.endSession_unwaited handle connection.unlinked connection.session
    have gone := client.release_unwaited handle
      (client.endSession handle connection.session connection.unlinked)
    exact ((started.trans ended).trans gone).note rfl

theorem adopt_unwaited : connection.Unwaited (client.adopt handle connection).2 := by
  rcases handshake : client.binding.handshake with _ | _
  · rw [client.adopt_of_plain handshake]
    exact ⟨rfl, rfl, rfl⟩
  · have asked := client.exchange_unwaited handle RegisterSession.mk connection
    rcases exchanged : client.exchange handle RegisterSession.mk connection with
      ⟨error | session, opened⟩
    all_goals rw [exchanged] at asked
    · rw [client.adopt_of_unregistered handshake exchanged]
      exact asked.trans (client.release_unwaited handle opened)
    · rw [client.adopt_of_registered handshake exchanged]
      have noted : connection.Unwaited (opened.note (.registered session)) := asked.note rfl
      exact ⟨noted.drawn, noted.slept, noted.waits⟩

theorem connect_unwaited : connection.Unwaited (client.connect connection).2 := by
  rcases held : connection.link with _ | handle
  · have noted : connection.Unwaited (connection.note .connecting) :=
      (Connection.Unwaited.refl connection).note rfl
    rcases dialled : client.binding.dial client.settings connection.device with
      ⟨fault | handle, device⟩
    · rw [client.connect_of_refused held dialled]
      exact ⟨noted.drawn, noted.slept, noted.waits⟩
    · rw [client.connect_of_dialled held dialled]
      have started : connection.Unwaited { connection.note .connecting with device } :=
        ⟨noted.drawn, noted.slept, noted.waits⟩
      exact started.trans (client.adopt_unwaited handle _)
  · rw [client.connect_of_link held]
    exact .refl connection

/-- **There is no wait within an attempt.** -/
theorem attempt_unwaited : connection.Unwaited (client.attempt request connection).2.2 := by
  have opening := client.connect_unwaited connection
  rcases connected : client.connect connection with ⟨error | ⟨⟩, opened⟩
  all_goals rw [connected] at opening
  · rw [client.attempt_of_error request connected]
    exact opening
  · obtain ⟨handle, held⟩ := client.link_of_connect connected
    rw [client.attempt_of_ok request connected held]
    exact opening.trans (client.exchange_unwaited handle _ opened)

theorem dropOversized_unwaited (result : Except Error ρ) :
    connection.Unwaited (client.dropOversized (result, connection)).2 := by
  by_cases oversized : Oversized result
  · obtain ⟨size, capacity, rfl⟩ := oversized
    exact ((Connection.Unwaited.refl connection).note rfl).trans (client.close_unwaited _)
  · rw [client.dropOversized_of_not_oversized connection oversized]
    exact .refl connection

end Client

/-! ## Trials -/

/-- An attempt: what is asked for, and the connection as it is then. -/
structure Trial (ℓ δ α : Type) where
  request : α
  before : Connection ℓ δ

namespace Trial

variable {ℓ δ α ρ : Type} [Request α ρ] (client : Client ℓ δ) (trial : Trial ℓ δ α)

/-- What comes of an attempt. -/
def result : Except Error ρ := (client.attempt trial.request trial.before).1

/-- The connection after an attempt that failed for the link, once the link is closed. -/
def closed (number : Nat) (fault : LinkError) : Connection ℓ δ :=
  client.close
    ((client.attempt trial.request trial.before).2.2.note (.attemptFailed number fault))

/-- The attempt that is made after that, and after a wait. -/
def next (number : Nat) (fault : LinkError) (wait : Duration) : Trial ℓ δ α :=
  ⟨(client.attempt trial.request trial.before).2.1,
    ((trial.closed client number fault).draw.note (.retrying wait fault)).sleep wait⟩

theorem closed_unwaited (number : Nat) (fault : LinkError) :
    trial.before.Unwaited (trial.closed client number fault) :=
  ((client.attempt_unwaited trial.request trial.before).note rfl).trans (client.close_unwaited _)

theorem drawn_next (number : Nat) (fault : LinkError) (wait : Duration) :
    (trial.next client number fault wait).before.drawn = trial.before.drawn + 1 :=
  congrArg (· + 1) (trial.closed_unwaited client number fault).drawn

/-- It begins after the wait, and that was announced. -/
theorem waited_next (number : Nat) (fault : LinkError) (wait : Duration) :
    (trial.next client number fault wait).before.slept = trial.before.slept ++ [wait] ∧
      (trial.next client number fault wait).before.waits = trial.before.waits ++ [wait] := by
  have unwaited := trial.closed_unwaited client number fault
  refine ⟨congrArg (· ++ [wait]) unwaited.slept, ?_⟩
  have announced :=
    Connection.waits_note (trial.closed client number fault).draw (.retrying wait fault)
  exact announced.trans (congrArg (· ++ [wait]) unwaited.waits)

/-- It begins without a link. -/
theorem shut_next (number : Nat) (fault : LinkError) (wait : Duration) :
    (trial.next client number fault wait).before.link = none ∧
      (trial.next client number fault wait).before.isOpen = false ∧
      (trial.next client number fault wait).before.session = 0 := by
  have same : _ := client.close_sameLink
    ((client.attempt trial.request trial.before).2.2.note (.attemptFailed number fault))
  exact ⟨same.link, same.isOpen, same.session⟩

end Trial

section

variable {ℓ δ α ρ : Type} [Request α ρ] (client : Client ℓ δ)

/-- The attempts of an execution from the one of a given number on, the first and those after it,
with the waits between them. -/
inductive Trials : Nat → Trial ℓ δ α → List (Trial ℓ δ α) → List Duration → Prop
  | last (number : Nat) (trial : Trial ℓ δ α) : Trials number trial [] []
  /-- It fails for the link, and after a wait there is another. -/
  | again {number : Nat} {trial : Trial ℓ δ α} {later : List (Trial ℓ δ α)}
    {waits : List Duration} {fault : LinkError} {wait : Duration}
    (faulted : trial.result client = .error (.link fault))
    (waited : client.backoff.wait number (trial.closed client number fault).drawn = .ok wait)
    (rest : Trials (number + 1) (trial.next client number fault wait) later waits) :
    Trials number trial (trial.next client number fault wait :: later) (wait :: waits)

/-- What an execution ends with whose last attempt has the given number, of at most `limit`. -/
inductive Concludes (limit number : Nat) (trial : Trial ℓ δ α) :
    Outcome ρ → Connection ℓ δ → Prop
  /-- The attempt does not fail for the link. -/
  | settled (settled : ¬Faulted (trial.result client)) :
    Concludes limit number trial (.ofResult (trial.result client))
      (client.dropOversized
        (trial.result client, (client.attempt trial.request trial.before).2.2)).2
  | exhausted {fault : LinkError} (all : number = limit)
    (faulted : trial.result client = .error (.link fault)) :
    Concludes limit number trial (.failed (.exhausted limit fault))
      (trial.closed client number fault)
  /-- It does, and there is no telling how long to wait. -/
  | aborted {fault : LinkError} {overflow : DelayOverflow} (early : number < limit)
    (faulted : trial.result client = .error (.link fault))
    (unable : client.backoff.wait number (trial.closed client number fault).drawn =
      .error overflow) :
    Concludes limit number trial (.aborted overflow) (trial.closed client number fault).draw

end

namespace Trials

variable {ℓ δ α ρ : Type} [Request α ρ] {client : Client ℓ δ} {number : Nat}
  {first : Trial ℓ δ α} {later : List (Trial ℓ δ α)} {waits : List Duration}

/-- All attempts but the last fail for the link. -/
theorem faulted (trials : Trials client number first later waits) :
    ∀ trial ∈ (first :: later).dropLast, Faulted (trial.result client) := by
  induction trials with
  | last _ _ => nofun
  | again faulted _ _ ih =>
    intro trial member
    rw [List.dropLast_cons_cons] at member
    rcases List.mem_cons.1 member with rfl | rest
    · exact ⟨_, faulted⟩
    · exact ih trial rest

/-- All attempts but the first begin without a link. -/
theorem shut (trials : Trials client number first later waits) :
    ∀ trial ∈ later, trial.before.link = none ∧ trial.before.isOpen = false ∧
      trial.before.session = 0 := by
  induction trials with
  | last _ _ => nofun
  | again _ _ _ ih =>
    intro trial member
    rcases List.mem_cons.1 member with rfl | rest
    · exact Trial.shut_next ..
    · exact ih trial rest

/-- The waits are those after the attempts of the numbers before, in order, with one draw for each.
-/
theorem waits_eq (trials : Trials client number first later waits) :
    waits.map .ok = (List.range later.length).map fun k =>
      client.backoff.wait (number + k) (first.before.drawn + k) := by
  induction trials with
  | last _ _ => rfl
  | @again number trial later waits fault wait _ waited _ ih =>
    rw [List.map_cons, ih, List.length_cons, List.range_succ_eq_map, List.map_cons, List.map_map,
      Trial.drawn_next, ← waited, (trial.closed_unwaited client number fault).drawn]
    congr 1
    refine List.map_congr_left fun k _ => ?_
    simp only [Function.comp_apply, Nat.succ_eq_add_one]
    congr 1 <;> omega

/-- A draw was made for each wait. -/
theorem drawn_last (trials : Trials client number first later waits) :
    (later.getLastD first).before.drawn = first.before.drawn + later.length := by
  induction trials with
  | last _ _ => rfl
  | again _ _ _ ih =>
    rw [List.getLastD_cons, ih, Trial.drawn_next, List.length_cons]
    omega

/-- The last attempt begins after all the waits, and all were announced. -/
theorem waited_last (trials : Trials client number first later waits) :
    (later.getLastD first).before.slept = first.before.slept ++ waits ∧
      (later.getLastD first).before.waits = first.before.waits ++ waits := by
  induction trials with
  | last _ _ => exact ⟨(List.append_nil _).symm, (List.append_nil _).symm⟩
  | @again number trial _ _ fault wait _ _ _ ih =>
    obtain ⟨slept, waits⟩ := trial.waited_next client number fault wait
    rw [List.getLastD_cons, ih.1, ih.2, slept, waits]
    simp only [List.append_assoc, List.singleton_append, and_self]

end Trials

/-- There is no wait after the last attempt. -/
theorem Concludes.unwaited {ℓ δ α ρ : Type} [Request α ρ] {client : Client ℓ δ}
    {limit number : Nat} {trial : Trial ℓ δ α} {outcome : Outcome ρ} {after : Connection ℓ δ}
    (concludes : Concludes client limit number trial outcome after) :
    after.slept = trial.before.slept ∧ after.waits = trial.before.waits := by
  cases concludes with
  | settled _ =>
    have settled := (client.attempt_unwaited trial.request trial.before).trans
      (client.dropOversized_unwaited _ (trial.result client))
    exact ⟨settled.slept, settled.waits⟩
  | exhausted _ _ =>
    have closed := trial.closed_unwaited client number
    exact ⟨(closed _).slept, (closed _).waits⟩
  | aborted _ _ _ =>
    have closed := trial.closed_unwaited client number
    exact ⟨(closed _).slept, (closed _).waits⟩

/-- **Every execution is one attempt after the other.** -/
theorem Client.trials_of_executes {ℓ δ α ρ : Type} [Request α ρ] {client : Client ℓ δ}
    {number more : Nat} {request sent : α} {outcome : Outcome ρ} {before after : Connection ℓ δ}
    (executes : Executes client number more request before outcome sent after) :
    ∃ later waits, Trials client number ⟨request, before⟩ later waits ∧ later.length ≤ more ∧
      Concludes client (number + more) (number + later.length) (later.getLastD ⟨request, before⟩)
        outcome after := by
  induction executes with
  | settled tried settled =>
    have same := congrArg Prod.fst tried
    have left := congrArg (fun tried => tried.2.2) tried
    dsimp only at same left
    subst same left
    exact ⟨[], [], .last _ _, Nat.zero_le _, .settled settled⟩
  | exhausted tried =>
    have left := congrArg (fun tried => tried.2.2) tried
    dsimp only at left
    subst left
    exact ⟨[], [], .last _ _, Nat.zero_le _, .exhausted rfl (congrArg Prod.fst tried)⟩
  | aborted tried closing unable =>
    have left := congrArg (fun tried => tried.2.2) tried
    dsimp only at left
    subst left closing
    exact ⟨[], [], .last _ _, Nat.zero_le _, .aborted (by simp) (congrArg Prod.fst tried) unable⟩
  | @retried number more request _ _ _ _ _ _ fault wait _ tried closing waited _ ih =>
    have asked := congrArg (fun tried => tried.2.1) tried
    have left := congrArg (fun tried => tried.2.2) tried
    dsimp only at asked left
    subst asked left closing
    obtain ⟨later, waits, trials, short, concludes⟩ := ih
    refine ⟨_ :: later, wait :: waits, .again (congrArg Prod.fst tried) waited trials,
      Nat.succ_le_succ short, ?_⟩
    rw [List.getLastD_cons, List.length_cons, show number + (more + 1) = number + 1 + more by omega,
      show number + (later.length + 1) = number + 1 + later.length by omega]
    exact concludes

/-! ## Links -/

/-- Whether the call asked for a link. -/
def Call.dials : Call → Bool
  | opened _ | refused _ => true
  | _ => false

/-- The calls of an attempt: a link is asked for first of all if none is held, and never after that.
-/
inductive Asks : Bool → List Call → Prop
  | held {calls : List Call} (quiet : ∀ call ∈ calls, call.dials = false) : Asks true calls
  | unlinked {call : Call} {calls : List Call} (dials : call.dials = true)
    (quiet : ∀ call ∈ calls, call.dials = false) : Asks false (call :: calls)

theorem OnLink.dials_eq {link : Nat} {calls : List Call} (onLink : OnLink link calls) :
    ∀ call ∈ calls, call.dials = false := by
  intro call member
  obtain ⟨named, quiet⟩ := onLink call member
  cases call with
  | opened _ => cases quiet
  | refused _ => cases named
  | sent _ _ _ | received _ _ | shut _ _ => rfl

theorem Asks.append {linked : Bool} {calls more : List Call} (asks : Asks linked calls)
    (quiet : ∀ call ∈ more, call.dials = false) : Asks linked (calls ++ more) := by
  cases asks with
  | held before =>
    refine .held fun call member => ?_
    rcases List.mem_append.1 member with former | latter
    · exact before call former
    · exact quiet call latter
  | unlinked dials before =>
    refine .unlinked dials fun call member => ?_
    rcases List.mem_append.1 member with former | latter
    · exact before call former
    · exact quiet call latter

theorem Opening.asks {handshake : Bool} {link : Nat} {session : Except Error SessionId}
    {calls : List Call} (opening : Opening handshake link session calls) : Asks false calls := by
  cases opening with
  | refused _ => exact .unlinked rfl nofun
  | unregistered _ denied outcome =>
    exact .unlinked rfl (denied.onLink.append (OnLink.shut link outcome)).dials_eq
  | plain _ => exact .unlinked rfl nofun
  | registered _ granted => exact .unlinked rfl granted.onLink.dials_eq

section

variable {ℓ δ α ρ : Type} [Request α ρ]

theorem Tries.asks {handshake : Bool} {request sent : α} {result : Except Error ρ}
    {before after : Connection (Nat × ℓ) (Watched δ)}
    (tries : Tries handshake request before result sent after) :
    ∃ own, Asks before.link.isSome own ∧ after.device.calls = before.device.calls ++ own := by
  cases tries with
  | unopened unlinked _ opening made =>
    rw [unlinked]
    exact ⟨_, opening.asks, made⟩
  | opened unlinked _ _ opening asked made =>
    rw [unlinked]
    exact ⟨_, opening.asks.append asked.onLink.dials_eq, made⟩
  | kept held _ asked made =>
    rw [held]
    exact ⟨_, .held asked.onLink.dials_eq, made⟩

namespace Client

variable (client : Client ℓ δ)

/-- No link is asked for where one is given up. -/
theorem close_quiet (connection : Connection (Nat × ℓ) (Watched δ)) :
    ∃ more, (∀ call ∈ more, call.dials = false) ∧
      (client.watched.close connection).device.calls = connection.device.calls ++ more := by
  rcases held : connection.link with _ | link
  · rw [client.watched.close_of_none held]
    exact ⟨[], nofun, (List.append_nil _).symm⟩
  · obtain ⟨farewell, outcome, made, onLink, -⟩ := client.close_calls held
    exact ⟨_, onLink.dials_eq, made⟩

theorem dropOversized_quiet (result : Except Error ρ)
    (connection : Connection (Nat × ℓ) (Watched δ)) :
    ∃ more, (∀ call ∈ more, call.dials = false) ∧
      (client.watched.dropOversized (result, connection)).2.device.calls =
        connection.device.calls ++ more := by
  by_cases oversized : Oversized result
  · obtain ⟨event, dropped⟩ := client.watched.dropOversized_of_oversized connection oversized
    rw [dropped]
    exact client.close_quiet (connection.note event)
  · rw [client.watched.dropOversized_of_not_oversized connection oversized]
    exact ⟨[], nofun, (List.append_nil _).symm⟩

end Client

variable (client : Client ℓ δ)

theorem Trial.attempt_asks (trial : Trial (Nat × ℓ) (Watched δ) α) :
    ∃ own, Asks trial.before.link.isSome own ∧
      (client.watched.attempt trial.request trial.before).2.2.device.calls =
        trial.before.device.calls ++ own := by
  rcases tried : client.watched.attempt trial.request trial.before with ⟨result, sent, after⟩
  exact (client.attempt_tries trial.request tried).asks

theorem Trial.closed_asks (trial : Trial (Nat × ℓ) (Watched δ) α) (number : Nat)
    (fault : LinkError) : ∃ own, Asks trial.before.link.isSome own ∧
      (trial.closed client.watched number fault).device.calls =
        trial.before.device.calls ++ own := by
  obtain ⟨own, asks, made⟩ := trial.attempt_asks client
  obtain ⟨more, quiet, closed⟩ := client.close_quiet
    ((client.watched.attempt trial.request trial.before).2.2.note (.attemptFailed number fault))
  refine ⟨own ++ more, asks.append quiet, ?_⟩
  rw [← List.append_assoc, ← made]
  exact closed

variable {client}

theorem Concludes.asks {limit number : Nat} {trial : Trial (Nat × ℓ) (Watched δ) α}
    {outcome : Outcome ρ} {after : Connection (Nat × ℓ) (Watched δ)}
    (concludes : Concludes client.watched limit number trial outcome after) :
    ∃ own, Asks trial.before.link.isSome own ∧
      after.device.calls = trial.before.device.calls ++ own := by
  cases concludes with
  | settled _ =>
    obtain ⟨own, asks, made⟩ := trial.attempt_asks client
    obtain ⟨more, quiet, dropped⟩ := client.dropOversized_quiet (trial.result client.watched)
      (client.watched.attempt trial.request trial.before).2.2
    refine ⟨own ++ more, asks.append quiet, ?_⟩
    rw [dropped, made, List.append_assoc]
  | exhausted _ _ => exact trial.closed_asks client _ _
  | aborted _ _ _ => exact trial.closed_asks client _ _

/-- **Every attempt but the first asks for a link first of all**, and no attempt asks for two. -/
theorem Trials.asks {limit number : Nat} {first : Trial (Nat × ℓ) (Watched δ) α}
    {later : List (Trial (Nat × ℓ) (Watched δ) α)} {waits : List Duration} {outcome : Outcome ρ}
    {after : Connection (Nat × ℓ) (Watched δ)}
    (trials : Trials client.watched number first later waits)
    (concludes : Concludes client.watched limit (number + later.length) (later.getLastD first)
      outcome after) :
    ∃ (own : List Call) (others : List (List Call)), others.length = later.length ∧
      Asks first.before.link.isSome own ∧ (∀ calls ∈ others, Asks false calls) ∧
      after.device.calls = first.before.device.calls ++ (own ++ others.flatten) := by
  induction trials with
  | last _ _ =>
    obtain ⟨own, asks, made⟩ := concludes.asks
    refine ⟨own, [], rfl, asks, nofun, ?_⟩
    rw [made, List.flatten_nil, List.append_nil]
    rfl
  | @again number trial later _ fault wait _ _ _ ih =>
    rw [List.getLastD_cons, List.length_cons,
      show number + (later.length + 1) = number + 1 + later.length by omega] at concludes
    obtain ⟨next, others, count, asks, all, made⟩ := ih concludes
    obtain ⟨own, begins, closed⟩ := trial.closed_asks client number fault
    rw [(trial.shut_next client.watched number fault wait).1] at asks
    refine ⟨own, next :: others, congrArg (· + 1) count, begins, ?_, ?_⟩
    · intro calls member
      rcases List.mem_cons.1 member with rfl | rest
      · exact asks
      · exact all calls rest
    · rw [made, List.flatten_cons, ← List.append_assoc (trial.before.device.calls), ← closed]
      rfl

end

/-! ## Accounts -/

section

variable {ℓ δ α ρ : Type} [Request α ρ]

/-- The result is an error that a new attempt may cure. -/
def Retryable (result : Except Error ρ) : Prop :=
  ∃ error, result = .error error ∧ error.retryable = true

theorem retryable_iff_faulted {result : Except Error ρ} : Retryable result ↔ Faulted result := by
  constructor
  · rintro ⟨_ | _ | _, rfl, retryable⟩
    · exact ⟨_, rfl⟩
    all_goals cases retryable
  · rintro ⟨fault, rfl⟩
    exact ⟨_, rfl, rfl⟩

/-- A connection as it is watched from now on. A link that it holds was the first to be opened. -/
def Connection.watched (connection : Connection ℓ δ) : Connection (Nat × ℓ) (Watched δ) :=
  { connection with
    link := connection.link.map (0, ·)
    device := ⟨connection.link.toList.map fun _ => .opened 0, connection.device⟩ }

variable (client : Client ℓ δ)

theorem Connection.watched_related (connection : Connection ℓ δ) :
    client.watching.Related connection.watched connection := by
  refine ⟨?_, rfl, rfl, rfl, rfl⟩
  unfold Connection.watched
  cases connection.link with
  | none => exact .none
  | some _ => exact .some rfl

/-- An attempt fails for the link or for a frame. -/
theorem Trial.error_cases (trial : Trial ℓ δ α) {error : Error}
    (failed : trial.result client = .error error) :
    (∃ fault, error = .link fault) ∨ ∃ fault, error = .frame fault := by
  have same := (Simulation.attempt_agree trial.request
    (trial.before.watched_related client)).1
  rcases tried : client.watched.attempt trial.request trial.before.watched with
    ⟨result, sent, after⟩
  have tries := client.attempt_tries trial.request tried
  rw [tried] at same
  obtain rfl : result = .error error := same.trans failed
  exact tries.error_cases

/-- How many draws were made for a wait that there was not. -/
def Outcome.idle : Outcome ρ → Nat
  | aborted _ => 1
  | _ => 0

variable {client}

/-- Nothing else is drawn after the last attempt. -/
theorem Concludes.drawn_eq {limit number : Nat} {trial : Trial ℓ δ α} {outcome : Outcome ρ}
    {after : Connection ℓ δ} (concludes : Concludes client limit number trial outcome after) :
    after.drawn = trial.before.drawn + outcome.idle := by
  cases concludes with
  | settled _ =>
    have same := ((client.attempt_unwaited trial.request trial.before).trans
      (client.dropOversized_unwaited _ (trial.result client))).drawn
    rw [same]
    cases trial.result client <;> rfl
  | exhausted _ _ => exact (trial.closed_unwaited client _ _).drawn
  | aborted _ _ _ => exact congrArg (· + 1) (trial.closed_unwaited client _ _).drawn

/-- How an execution of at most `limit` attempts is accounted for: by its attempts, `first` and
those of `later`, and by the waits between them. -/
structure Accounts (client : Client ℓ δ) (limit : Nat) (first : Trial ℓ δ α)
    (later : List (Trial ℓ δ α)) (waits : List Duration) (outcome : Outcome ρ)
    (after : Connection ℓ δ) : Prop where
  /-- Each attempt begins where the one before it and the wait after that have ended. -/
  trials : Trials client 1 first later waits
  within : later.length + 1 ≤ limit
  failed : ∀ trial ∈ (first :: later).dropLast, Retryable (trial.result client)
  settled : ¬Retryable ((later.getLastD first).result client) →
    outcome = .ofResult ((later.getLastD first).result client) ∧
    ∀ error, (later.getLastD first).result client = .error error → ∃ fault, error = .frame fault
  exhausted : ∀ fault, (later.getLastD first).result client = .error (.link fault) →
    (later.length + 1 = limit ∧ outcome = .failed (.exhausted limit fault)) ∨
    (later.length + 1 < limit ∧ ∃ overflow, outcome = .aborted overflow ∧
      client.backoff.wait (later.length + 1) (first.before.drawn + later.length) =
        .error overflow)
  /-- The connection is as the last attempt has left it, or closed. -/
  ended : Concludes client limit (later.length + 1) (later.getLastD first) outcome after
  shut : ∀ trial ∈ later, trial.before.link = none ∧ trial.before.isOpen = false ∧
    trial.before.session = 0
  /-- The waits are those after attempts one, two, and so on, each with a draw of its own. -/
  delays : waits.map .ok = (List.range later.length).map fun k =>
    client.backoff.wait (k + 1) (first.before.drawn + k)
  /-- So long was waited, in order, and no longer. -/
  slept : after.slept = first.before.slept ++ waits
  announced : after.waits = first.before.waits ++ waits

theorem Trials.accounts {limit : Nat} {first : Trial ℓ δ α} {later : List (Trial ℓ δ α)}
    {waits : List Duration} {outcome : Outcome ρ} {after : Connection ℓ δ}
    (trials : Trials client 1 first later waits) (within : later.length + 1 ≤ limit)
    (concludes : Concludes client limit (later.length + 1) (later.getLastD first) outcome after) :
    Accounts client limit first later waits outcome after where
  trials := trials
  within := within
  failed trial member := retryable_iff_faulted.2 (trials.faulted trial member)
  settled steady := by
    rw [retryable_iff_faulted] at steady
    refine ⟨?_, fun error failed => ?_⟩
    · cases concludes with
      | settled _ => rfl
      | exhausted _ faulted => exact absurd ⟨_, faulted⟩ steady
      | aborted _ faulted _ => exact absurd ⟨_, faulted⟩ steady
    · rcases (later.getLastD first).error_cases client failed with ⟨fault, rfl⟩ | frame
      · exact absurd ⟨fault, failed⟩ steady
      · exact frame
  exhausted fault failed := by
    cases concludes with
    | settled settled => exact absurd ⟨fault, failed⟩ settled
    | exhausted all faulted =>
      cases failed.symm.trans faulted
      exact .inl ⟨all, rfl⟩
    | aborted early faulted unable =>
      rw [((later.getLastD first).closed_unwaited client _ _).drawn, trials.drawn_last] at unable
      exact .inr ⟨early, _, rfl, unable⟩
  ended := concludes
  shut := trials.shut
  delays := by
    rw [trials.waits_eq]
    refine List.map_congr_left fun k _ => ?_
    rw [Nat.add_comm 1 k]
  slept := concludes.unwaited.1.trans trials.waited_last.1
  announced := concludes.unwaited.2.trans trials.waited_last.2

/-- **An execution never fails for the link**, but for want of attempts. -/
theorem Concludes.ne_link {limit number : Nat} {trial : Trial ℓ δ α} {outcome : Outcome ρ}
    {after : Connection ℓ δ} (concludes : Concludes client limit number trial outcome after)
    (fault : LinkError) : outcome ≠ .failed (.link fault) := by
  cases concludes with
  | settled settled => exact fun failed => settled ⟨fault, Outcome.of_failed failed⟩
  | exhausted _ _ => nofun
  | aborted _ _ _ => nofun

theorem Settings.attempts_eq (settings : Settings) : settings.attempts.toNat =
    if settings.retries = 0 then 3 else settings.retries.toNat := by
  unfold attempts
  split
  · rfl
  · rfl

theorem Settings.attempts_pos (settings : Settings) : 0 < settings.attempts.toNat := by
  rw [settings.attempts_eq]
  split
  · decide
  · rename_i some
    exact Nat.pos_of_ne_zero fun none => some (UInt32.toNat_inj.1 none)

namespace Client

variable (client) (request : α)

theorem execute_concludes (before : Connection ℓ δ) :
    ∃ later waits, Trials client 1 ⟨request, before⟩ later waits ∧
    later.length + 1 ≤ client.settings.attempts.toNat ∧
    Concludes client client.settings.attempts.toNat (later.length + 1)
      (later.getLastD ⟨request, before⟩) (client.execute request before).1
      (client.execute request before).2.2 := by
  have some := client.settings.attempts_pos
  obtain ⟨later, waits, trials, short, concludes⟩ := trials_of_executes
    (client.executes 1 (client.settings.attempts.toNat - 1) request before)
  rw [Nat.add_sub_cancel' some, Nat.add_comm 1] at concludes
  exact ⟨later, waits, trials, by omega, concludes⟩

/-- **Every execution is accounted for.** It makes attempts up to the first that does not fail for
the link, and no more than the settings allow, which is three where they say zero; it ends as that
one does, or with the fault of the last; it waits between attempts and nowhere else; and every
attempt after the first begins by asking for a new link. -/
theorem execute_accounts (before : Connection ℓ δ) :
    let limit := client.settings.attempts.toNat
    let run := client.execute request before
    let watched := client.watched.execute request before.watched
    limit = (if client.settings.retries = 0 then 3 else client.settings.retries.toNat) ∧
    limit < UInt32.size ∧
    (∀ fault, run.1 ≠ .failed (.link fault)) ∧
    (watched.1 = run.1 ∧ watched.2.2.device.device = run.2.2.device) ∧
    ∃ (later : List (Trial ℓ δ α)) (waits : List Duration) (own : List Call)
      (others : List (List Call)),
      Accounts client limit ⟨request, before⟩ later waits run.1 run.2.2 ∧
      watched.2.2.device.calls = before.watched.device.calls ++ (own ++ others.flatten) ∧
      others.length = later.length ∧ Asks before.link.isSome own ∧
      ∀ calls ∈ others, Asks false calls := by
  intro limit run watched
  obtain ⟨later, waits, trials, within, concludes⟩ := client.execute_concludes request before
  obtain ⟨same, -, related⟩ := Simulation.execute_agree request (before.watched_related client)
  obtain ⟨later', _, trials', _, concludes'⟩ :=
    client.watched.execute_concludes request before.watched
  -- One attempt for each draw: so there are as many as are made unwatched.
  have count : later'.length = later.length := by
    have drawn := concludes.drawn_eq
    have drawn' := concludes'.drawn_eq
    rw [trials.drawn_last] at drawn
    rw [trials'.drawn_last, related.drawn, same, drawn] at drawn'
    simp only [Connection.watched] at drawn'
    omega
  obtain ⟨own, others, number, asks, all, made⟩ := trials'.asks (Nat.add_comm 1 _ ▸ concludes')
  refine ⟨client.settings.attempts_eq, client.settings.attempts.toNat_lt_size, concludes.ne_link,
    ⟨same, related.device⟩, later, waits, own, others, trials.accounts within concludes, made,
    number.trans count, ?_, all⟩
  rwa [Connection.watched, Option.isSome_map] at asks

end Client

/-! ## Two clients -/

section

variable {ℓ' δ' : Type} {other : Client ℓ' δ'} {simulation : Simulation client other}

/-- Two attempts are for the same request, on related connections. -/
structure Simulation.Tried (simulation : Simulation client other) (trial : Trial ℓ δ α)
    (trial' : Trial ℓ' δ' α) : Prop where
  request : trial.request = trial'.request
  before : simulation.Related trial.before trial'.before

variable {first : Trial ℓ δ α} {first' : Trial ℓ' δ' α} {later : List (Trial ℓ δ α)}
  {later' : List (Trial ℓ' δ' α)} {waits waits' : List Duration}

/-- Such attempts come to the same. -/
theorem Simulation.Tried.agree (tried : simulation.Tried first first') :
    Agree (Agree simulation.Related) (client.attempt first.request first.before)
      (other.attempt first'.request first'.before) :=
  tried.request ▸ Simulation.attempt_agree first.request tried.before

/-- If both are followed by another, those are such attempts again. -/
theorem Simulation.Tried.next (tried : simulation.Tried first first') (number : Nat)
    (fault : LinkError) (wait : Duration) :
    simulation.Tried (first.next client number fault wait)
      (first'.next other number fault wait) := by
  obtain ⟨-, sent, kept⟩ := tried.agree
  obtain ⟨link, isOpen, session, drawn, device⟩ := Simulation.close_related
    (kept.note (.attemptFailed number fault) (.attemptFailed number fault))
  exact ⟨sent, link, isOpen, session, congrArg (· + 1) drawn, device⟩

theorem Trials.tried {number : Nat} (trials : Trials client number first later waits)
    (trials' : Trials other number first' later' waits') (count : later.length = later'.length)
    (tried : simulation.Tried first first') :
    List.Forall₂ simulation.Tried (first :: later) (first' :: later') := by
  induction trials generalizing first' later' waits' with
  | last _ _ =>
    obtain rfl : later' = [] := List.length_eq_zero_iff.1 count.symm
    exact .cons tried .nil
  | @again number first _ _ fault wait faulted waited _ ih =>
    cases trials' with
    | last _ _ => cases count
    | @again _ _ _ _ fault' wait' faulted' waited' rest' =>
      -- They fail alike, and so the draw is the same, and the wait.
      obtain rfl : fault = fault' :=
        Error.link.inj (Except.error.inj (faulted.symm.trans (tried.agree.1.trans faulted')))
      have drawn := (tried.next number fault wait).before.drawn
      rw [first.drawn_next, first'.drawn_next] at drawn
      rw [(first.closed_unwaited client number fault).drawn, simulation.backoff,
        Nat.succ.inj drawn, ← (first'.closed_unwaited other number fault).drawn, waited'] at waited
      obtain rfl : wait' = wait := Except.ok.inj waited
      exact .cons tried (ih rest' (Nat.succ.inj count) (tried.next number fault _))

/-- **Two related executions make related attempts**, and as many. -/
theorem Simulation.execute_tried (request : α) {before : Connection ℓ δ}
    {before' : Connection ℓ' δ'} (related : simulation.Related before before') :
    ∃ (later : List (Trial ℓ δ α)) (later' : List (Trial ℓ' δ' α)) (waits waits' : List Duration),
      Accounts client client.settings.attempts.toNat ⟨request, before⟩ later waits
        (client.execute request before).1 (client.execute request before).2.2 ∧
      Accounts other other.settings.attempts.toNat ⟨request, before'⟩ later' waits'
        (other.execute request before').1 (other.execute request before').2.2 ∧
      List.Forall₂ simulation.Tried (⟨request, before⟩ :: later)
        (⟨request, before'⟩ :: later') := by
  obtain ⟨same, -, final⟩ := Simulation.execute_agree request related
  obtain ⟨later, waits, trials, within, concludes⟩ := client.execute_concludes request before
  obtain ⟨later', waits', trials', within', concludes'⟩ := other.execute_concludes request before'
  -- One draw for each attempt but the first.
  have count : later.length = later'.length := by
    have drawn := concludes.drawn_eq
    have drawn' := concludes'.drawn_eq
    rw [trials.drawn_last, final.drawn, same, related.drawn] at drawn
    rw [trials'.drawn_last, drawn] at drawn'
    dsimp only at drawn'
    omega
  exact ⟨later, later', waits, waits', trials.accounts within concludes,
    trials'.accounts within' concludes', trials.tried trials' count ⟨rfl, related⟩⟩

end

end

end Enip
