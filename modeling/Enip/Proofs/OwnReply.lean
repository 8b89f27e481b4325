import Enip.Proofs.Answering

/-!
# Every request gets its own reply

With a device that answers each frame at most once, and by a whole frame, no reply is ever taken
for the reply to another request. What carries this is that a connection is `Quiet` between
operations: nothing waits on its link that belongs to a frame. Each way in which an exchange can
end either takes the one answer that waits off the link, or ends with the link given up.

`Client.execute_settled` is this for an execution, attempt by attempt; `Client.execute_own_reply`
for every one of the executions of a run.
-/

namespace Enip

variable {π α ρ : Type}

/-- No part of a frame waits on the link that is held. -/
def Connection.Quiet (connection : Connection Nat (World π)) : Prop :=
  ∀ link, connection.link = some link → content (connection.device.queue link) = []

/-- The request was the last frame to be sent, and the reply is read from the answer to it. -/
def Answered [Request α ρ] (before after : Connection Nat (World π)) (request : α) (reply : ρ) :
    Prop :=
  ∃ earlier link frame answer, after.device.posts = earlier ++ [⟨link, frame, some answer⟩] ∧
    before.device.posts <+: earlier ∧ after.link = some link ∧ Request.frame request = .ok frame ∧
    Request.decode request answer.frame = .ok reply

theorem Answered.sooner [Request α ρ] {before after third : Connection Nat (World π)} {request : α}
    {reply : ρ} (answered : Answered after third request reply)
    (posts : before.device.posts <+: after.device.posts) : Answered before third request reply := by
  obtain ⟨earlier, link, frame, answer, all, now, rest⟩ := answered
  exact ⟨earlier, link, frame, answer, all, posts.trans now, rest⟩

namespace Client

variable [Request α ρ] {peer : Peer π} {client : Client Nat (World π)}
  (served : client.binding = peer.binding) (link : Nat) (request : α)
  (connection : Connection Nat (World π))

/-! ## One exchange -/

include served

theorem transmit_posts : connection.device.posts <+:
    (client.transmit link request connection).2.device.posts := by
  rcases written : Request.frame request with fault | frame
  · have same := (client.transmit_of_unwritten link request connection written).2
    exact ⟨[], by rw [same, List.append_nil]⟩
  · have sent := (client.transmit_of_written link request connection written).2
    rw [sent, served]
    exact List.prefix_append ..

theorem exchange_posts : connection.device.posts <+:
    (client.exchange link request connection).2.device.posts := by
  have posts := transmit_posts served link request connection
  rcases transmitted : client.transmit link request connection with ⟨error | ⟨⟩, waiting⟩
  all_goals rw [transmitted] at posts
  · rw [client.exchange_of_unsent link request connection transmitted]
    exact posts
  · rw [client.exchange_of_sent link request connection transmitted, receive_posts served]
    exact posts

/-- What was received in reply when one answer at most waits on the link: that answer, and all of
it. -/
theorem receive_answer (sized : Request.replySize request = frameSize) {answer : Option Answer}
    (waits : content (connection.device.queue link) =
      content ((answer.map Answer.arrivals).getD []))
    (steady : ¬Faulted (client.receive link request connection).1)
    (small : ¬Oversized (client.receive link request connection).1) :
    content ((client.receive link request connection).2.device.queue link) = [] ∧
      ∃ own, answer = some own ∧ (client.receive link request connection).1 =
        (Request.decode request own.frame).mapError .frame := by
  obtain ⟨data, enough, moved, result⟩ :=
    receive_settled served link sized connection steady small
  rw [waits] at moved
  rcases answer with _ | own
  · obtain ⟨rfl, -⟩ := List.append_eq_nil_iff.1 moved
    exact absurd enough (by decide)
  · have begins : data ++ content ((client.receive link request connection).2.device.queue link) <+:
        own.frame := by
      rw [moved]
      exact own.begins
    obtain rfl : data = own.frame :=
      own.whole.eq_of_frameSize_le ((List.prefix_append ..).trans begins) enough
    refine ⟨?_, own, rfl, result⟩
    have length := begins.length_le
    rw [List.length_append] at length
    exact List.length_eq_zero_iff.1 (by omega)

/-- An exchange that neither fails for the link nor for the size of the reply leaves nothing of the
reply behind. -/
theorem exchange_settled (sized : Request.replySize request = frameSize)
    (quiet : content (connection.device.queue link) = [])
    (steady : ¬Faulted (client.exchange link request connection).1)
    (small : ¬Oversized (client.exchange link request connection).1) :
    content ((client.exchange link request connection).2.device.queue link) = [] ∧
      ∀ reply, (client.exchange link request connection).1 = .ok reply → ∃ frame answer,
        (client.exchange link request connection).2.device.posts =
          connection.device.posts ++ [⟨link, frame, some answer⟩] ∧
        Request.frame request = .ok frame ∧ Request.decode request answer.frame = .ok reply := by
  rcases written : Request.frame request with fault | frame
  · -- Nothing was sent, and nothing was received.
    obtain ⟨failed, same⟩ := client.transmit_of_unwritten link request connection written
    have unsent := client.exchange_of_unsent link request connection (Prod.ext failed rfl)
    rw [unsent, same]
    exact ⟨quiet, nofun⟩
  · obtain ⟨sent, device⟩ := client.transmit_of_written link request connection written
    rw [served] at sent device
    obtain ⟨answer, posts, waits⟩ := post_of_send peer link connection.device frame
    rw [← device] at posts waits
    rw [quiet, List.nil_append] at waits
    rcases outcome : (peer.binding.send link frame connection.device).1 with fault | ⟨⟩
    all_goals rw [outcome] at sent
    · have unsent := client.exchange_of_unsent link request connection (Prod.ext sent rfl)
      rw [unsent] at steady
      exact absurd ⟨fault, rfl⟩ steady
    · rw [client.exchange_of_sent link request connection (Prod.ext sent rfl)] at steady small ⊢
      obtain ⟨empty, own, rfl, result⟩ :=
        receive_answer served link request _ sized waits steady small
      refine ⟨empty, fun reply replied => ⟨frame, own, ?_, rfl, ?_⟩⟩
      · rw [receive_posts served, posts]
      · rw [result] at replied
        rcases decoded : Request.decode request own.frame with fault | found
        · rw [decoded] at replied
          cases replied
        · rw [decoded] at replied
          cases replied
          rfl

omit served

/-! ## Opening and giving up -/

/-- From one state of the connection to another frames may be sent, and in the end it is quiet. -/
structure Settles (before after : Connection Nat (World π)) : Prop where
  quiet : after.Quiet
  posts : before.device.posts <+: after.device.posts

variable {connection} {before after : Connection Nat (World π)}

theorem Settles.refl (quiet : before.Quiet) : Settles before before :=
  ⟨quiet, List.prefix_refl _⟩

theorem Connection.quiet_of_none (unlinked : before.link = none) : before.Quiet := by
  intro link held
  rw [unlinked] at held
  cases held

include served

theorem release_posts :
    (client.release link before).device.posts = before.device.posts := by
  unfold release
  rw [served]
  split
  · rename_i gone
    obtain ⟨-, rfl⟩ := Prod.mk.inj gone
    rfl
  · rename_i gone
    obtain ⟨-, rfl⟩ := Prod.mk.inj gone
    rfl

theorem endSession_posts (session : SessionId) (connection : Connection Nat (World π)) :
    connection.device.posts <+: (client.endSession link session connection).device.posts := by
  rw [client.endSession_device]
  split
  · exact transmit_posts served link (unregisterSession session) connection
  · exact List.prefix_refl _

theorem close_settles : Settles before (client.close before) := by
  refine ⟨Connection.quiet_of_none (client.link_of_close before), ?_⟩
  rcases held : before.link with _ | link
  · rw [client.close_of_none held]
    exact List.prefix_refl _
  · rw [client.close_of_link held]
    show _ <+: (client.release link _).device.posts
    rw [release_posts served]
    exact endSession_posts served link before.session before.unlinked

/-- A link that was opened is quiet, also when a session was registered on it. -/
theorem adopt_settles (unlinked : before.link = none) (fresh : before.device.queue link = []) :
    Settles before (client.adopt link before).2 := by
  have empty : content (before.device.queue link) = [] := by rw [fresh, content]
  rcases handshake : client.binding.handshake with _ | _
  · rw [client.adopt_of_plain handshake]
    refine ⟨fun held same => ?_, List.prefix_refl _⟩
    cases same
    exact empty
  · have posts := exchange_posts served link RegisterSession.mk before
    have settled := exchange_settled served link RegisterSession.mk before rfl empty
    have same := client.exchange_sameLink link RegisterSession.mk before
    rcases exchanged : client.exchange link RegisterSession.mk before with ⟨error | session, opened⟩
    all_goals rw [exchanged] at posts settled same
    · rw [client.adopt_of_unregistered handshake exchanged]
      refine ⟨Connection.quiet_of_none ?_, ?_⟩
      · rw [(client.release_sameLink link opened).link, same.link, unlinked]
      · rw [release_posts served]
        exact posts
    · rw [client.adopt_of_registered handshake exchanged]
      refine ⟨fun held same => ?_, posts⟩
      cases same
      exact (settled (not_faulted_ok _) (not_oversized_ok _)).1

theorem connect_settles (quiet : before.Quiet) : Settles before (client.connect before).2 := by
  rcases held : before.link with _ | link
  · obtain ⟨posts, fresh⟩ := fresh_of_dial peer before.device client.settings
    rw [← served] at posts fresh
    rcases dialled : client.binding.dial client.settings before.device with ⟨fault | link, world⟩
    all_goals rw [dialled] at posts fresh
    · rw [client.connect_of_refused held dialled]
      refine ⟨Connection.quiet_of_none held, ?_⟩
      exact ⟨[], (List.append_nil _).trans posts.symm⟩
    · rw [client.connect_of_dialled held dialled]
      have adopted : Settles { before.note .connecting with device := world } _ :=
        adopt_settles served link held (fresh link rfl)
      refine ⟨adopted.quiet, ?_⟩
      rw [← posts]
      exact adopted.posts
  · rw [client.connect_of_link held]
    exact .refl quiet

/-! ## Attempts -/

theorem closed_settles (posts : before.device.posts <+: after.device.posts) (event : Event) :
    Settles before (client.close (after.note event)) := by
  have closed : Settles (after.note event) (client.close (after.note event)) := close_settles served
  exact ⟨closed.quiet, posts.trans closed.posts⟩

/-- The link is closed if the reply was too large, and nothing of it is left then. -/
theorem dropOversized_settles {result : Except Error ρ}
    (posts : before.device.posts <+: after.device.posts) (quiet : ¬Oversized result → after.Quiet) :
    Settles before (client.dropOversized (result, after)).2 := by
  by_cases oversized : Oversized result
  · obtain ⟨event, dropped⟩ := client.dropOversized_of_oversized after oversized
    rw [dropped]
    exact closed_settles served posts event
  · rw [client.dropOversized_of_not_oversized after oversized]
    exact ⟨quiet oversized, posts⟩

/-- An attempt that is not cut short leaves the connection quiet, and a reply that it gets is the
one to the request it sent. -/
theorem attempt_settled (sized : ∀ request : α, Request.replySize request = frameSize)
    (quiet : before.Quiet) {result : Except Error ρ} {sent : α}
    (tried : client.attempt request before = (result, sent, after)) :
    before.device.posts <+: after.device.posts ∧
      (¬Faulted result → ¬Oversized result → after.Quiet) ∧
      ∀ reply, result = .ok reply → Answered before after sent reply := by
  have opening := connect_settles served quiet
  rcases connected : client.connect before with ⟨error | ⟨⟩, opened⟩
  all_goals rw [connected] at opening
  · rw [client.attempt_of_error request connected] at tried
    cases tried
    exact ⟨opening.posts, fun _ _ => opening.quiet, nofun⟩
  · obtain ⟨link, held⟩ := client.link_of_connect connected
    rw [client.attempt_of_ok request connected held] at tried
    cases tried
    have still := (client.exchange_sameLink link (client.bound request before opened) opened).link
    rw [held] at still
    have settled := exchange_settled served link (client.bound request before opened) opened
      (sized _) (opening.quiet link held)
    refine ⟨opening.posts.trans (exchange_posts served link _ opened), ?_, fun reply replied => ?_⟩
    · intro steady small other same
      rw [still] at same
      cases same
      exact (settled steady small).1
    · rw [replied] at settled
      obtain ⟨frame, answer, posts, written, read⟩ :=
        (settled (not_faulted_ok reply) (not_oversized_ok reply)).2 reply rfl
      exact ⟨_, link, frame, answer, posts, opening.posts, still, written, read⟩

/-! ## Executions -/

theorem settled_of_executes (sized : ∀ request : α, Request.replySize request = frameSize)
    (quiet : before.Quiet) {number more : Nat} {sent : α} {outcome : Outcome ρ}
    (executes : Executes client number more request before outcome sent after) :
    Settles before after ∧ ∀ reply, outcome = .done reply → Answered before after sent reply := by
  induction executes with
  | @settled _ _ _ _ _ after result tried steady =>
    obtain ⟨posts, still, answered⟩ := attempt_settled served _ sized quiet tried
    refine ⟨dropOversized_settles served posts (still steady), fun reply done => ?_⟩
    rcases result with error | reply
    · cases done
    · cases done
      exact answered reply rfl
  | exhausted tried =>
    exact ⟨closed_settles served (attempt_settled served _ sized quiet tried).1 _, nofun⟩
  | @aborted number _ _ _ _ _ closed fault _ tried closing _ =>
    have settled := closed_settles served (attempt_settled served _ sized quiet tried).1
      (.attemptFailed number fault)
    rw [← closing] at settled
    exact ⟨⟨settled.quiet, settled.posts⟩, nofun⟩
  | @retried number _ _ _ _ _ _ closed _ fault _ _ tried closing _ _ ih =>
    have settled := closed_settles served (attempt_settled served _ sized quiet tried).1
      (.attemptFailed number fault)
    rw [← closing] at settled
    obtain ⟨⟨quiet, posts⟩, answered⟩ := ih settled.quiet
    exact ⟨⟨quiet, settled.posts.trans posts⟩,
      fun reply done => (answered reply done).sooner settled.posts⟩

/-- **A reply is the one to the request that was sent last**, and nothing of it is left. -/
theorem execute_settled (sized : ∀ request : α, Request.replySize request = frameSize)
    (quiet : before.Quiet) :
    Settles before (client.execute request before).2.2 ∧
      ∀ reply, (client.execute request before).1 = .done reply →
        Answered before (client.execute request before).2.2 (client.execute request before).2.1
          reply :=
  settled_of_executes served _ sized quiet (client.executes ..)

/-! ## Runs -/

end Client

/-- Requests are executed, and neither written nor read on their own. -/
def Operation.Paired : Operation α → Prop
  | .connect | .execute _ | .close => True
  | .write _ | .read _ => False

namespace Client

variable [Request α ρ] {peer : Peer π} {client : Client Nat (World π)}

theorem run_quiet (served : client.binding = peer.binding)
    (sized : ∀ request : α, Request.replySize request = frameSize) (operations : List (Operation α))
    (paired : ∀ operation ∈ operations, operation.Paired) {before : Connection Nat (World π)}
    (quiet : before.Quiet) : (client.run operations before).Quiet := by
  induction operations generalizing before with
  | nil => exact quiet
  | cons operation operations ih =>
    refine ih (fun _ later => paired _ (List.mem_cons_of_mem _ later)) ?_
    cases operation with
    | connect => exact (connect_settles served quiet).quiet
    | write _ => exact (paired _ List.mem_cons_self).elim
    | read _ => exact (paired _ List.mem_cons_self).elim
    | execute request => exact (execute_settled served request sized quiet).1.quiet
    | close => exact (close_settles served).quiet

/-- **No reply is stale.** However requests were executed before, and however links were opened and
closed, the reply to a request is the payload of the answer to the frame that was sent last, and
that frame was sent for this request; and nothing that was answered is left on the link. -/
theorem execute_own_reply (peer : Peer π) (state : π) (settings : Settings) (backoff : Backoff)
    (operations : List (Operation (Encapsulated Bytes)))
    (paired : ∀ operation ∈ operations, operation.Paired) (request : Encapsulated Bytes) :
    let client : Client Nat (World π) := ⟨peer.binding, settings, backoff⟩
    let before := client.run operations (.start (.start state))
    let after := (client.execute request before).2.2
    (∀ payload, (client.execute request before).1 = .done payload → ∃ earlier link frame answer,
      after.device.posts = earlier ++ [⟨link, frame, some answer⟩] ∧
      before.device.posts <+: earlier ∧ after.link = some link ∧
      Request.frame (client.execute request before).2.1 = .ok frame ∧
      payload = answer.frame.drop Header.size) ∧
    ∀ link, after.link = some link → content (after.device.queue link) = [] := by
  intro client before after
  have quiet : before.Quiet :=
    run_quiet rfl (fun _ => rfl) operations paired (Connection.quiet_of_none rfl)
  have served : client.binding = peer.binding := rfl
  obtain ⟨settled, answered⟩ := execute_settled served request (fun _ => rfl) quiet
  refine ⟨fun payload done => ?_, settled.quiet⟩
  obtain ⟨earlier, link, frame, answer, posts, now, held, written, read⟩ := answered payload done
  exact ⟨earlier, link, frame, answer, posts, now, held, written, (Encapsulated.decode_ok read).2⟩

end Client

/-- A device that gives the same answer to every frame. -/
def Peer.constant (answer : Answer) : Peer Unit where
  handshake := false
  dial _ _ := (.ok (), ())
  take _ _ _ := (.ok (), some answer, ())
  starve _ _ := (.ok (), ())
  shutdown _ _ := (.ok (), ())

/-- A frame with a payload of two bytes, in two pieces. -/
def Answer.ofTwo : Answer where
  frame := [0, 0, 2, 0] ++ List.replicate 20 0 ++ [1, 2]
  whole := ⟨by decide, by decide⟩
  arrivals := [.piece [0, 0, 2], .piece (0 :: List.replicate 20 0 ++ [1, 2])]
  begins := by decide

/-- The second execution over one link gets its own answer, although it looks like the first. -/
theorem execute_own_reply_twice :
    let client : Client Nat (World Unit) :=
      ⟨(Peer.constant .ofTwo).binding, .device "device" 0, ⟨.ofMillis 500, Draws.cycle []⟩⟩
    let request : Encapsulated Bytes := { command := .nop, session := 0, payload := [] }
    let before := client.run [.execute request] (.start (.start ()))
    let after := (client.execute request before).2.2
    before.device.posts.length = 1 ∧ (client.execute request before).1 = .done [1, 2] ∧
      ∃ earlier link frame answer, after.device.posts = earlier ++ [⟨link, frame, some answer⟩] ∧
        before.device.posts <+: earlier ∧ [1, 2] = answer.frame.drop Header.size := by
  intro client request before after
  have done : (client.execute request before).1 = .done [1, 2] := by decide +kernel
  have own := Client.execute_own_reply (Peer.constant .ofTwo) () (.device "device" 0)
    ⟨.ofMillis 500, Draws.cycle []⟩ [.execute request] (by simp [Operation.Paired]) request
  obtain ⟨earlier, link, frame, answer, posts, now, -, -, payload⟩ := own.1 [1, 2] done
  exact ⟨by decide +kernel, done, earlier, link, frame, answer, posts, now, payload⟩

end Enip
