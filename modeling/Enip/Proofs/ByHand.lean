import Enip.Proofs.Headers
import Enip.Proofs.Lifecycle
import Enip.Proofs.Reassembly
import Enip.Rehearsal.Request

/-!
# Executing a request by hand

A caller can do with `connect`, `write` and `read` what an execution does that has one attempt:
open a link, move the request to the session of a new link, send the request, receive the reply, and
close the link after a fault of it. `Client.byHand` is that sequence and `Client.executeByHand` adds
the closing. Both are written with nothing but what callers can do and see; an execution goes
another way, with one look at the link instead of three, and one place where replies too large for
the buffer are dealt with instead of two.

In that one place an execution closes the link whichever step has failed. So the two part where a
request cannot be written and gives the size of a reply as the reason (`BlamesReply`): the caller is
left with an open link (`execute_by_hand_blamed`), and would have to close it
(`Client.executeClosing`). With that they come to the same, and for every other request without it
(`Client.execute_by_hand`). They report different things, so that connections are compared without
their logs (`Connection.unlogged`), and that is all: no step reads the log
(`Client.transmit_unlogged`, `Client.close_unlogged`).
-/

namespace Enip

/-! ## What does not depend on the log -/

/-- A connection without what it has reported. -/
def Connection.unlogged {ℓ δ : Type} (connection : Connection ℓ δ) : Connection ℓ δ :=
  { connection with log := [] }

namespace Client

variable {ℓ δ α ρ : Type} [Request α ρ] (client : Client ℓ δ) (handle : ℓ)
  (connection : Connection ℓ δ)

theorem transmit_unlogged (request : α) :
    (client.transmit handle request connection.unlogged).1 =
        (client.transmit handle request connection).1 ∧
      (client.transmit handle request connection.unlogged).2.unlogged =
        (client.transmit handle request connection).2.unlogged := by
  unfold transmit Connection.unlogged
  rcases Request.encode request connection.buffer.clear with ⟨fault | ⟨⟩, buffer⟩
  · exact ⟨rfl, rfl⟩
  · dsimp only [Connection.note]
    rcases client.binding.send handle buffer.bytes connection.device with ⟨fault | ⟨⟩, device⟩
    · exact ⟨rfl, rfl⟩
    · exact ⟨rfl, rfl⟩

theorem release_unlogged :
    (client.release handle connection.unlogged).unlogged =
      (client.release handle connection).unlogged := by
  unfold release Connection.unlogged
  dsimp only
  rcases client.binding.shutdown handle connection.device with ⟨fault | ⟨⟩, device⟩
  · rfl
  · rfl

theorem endSession_unlogged (session : SessionId) :
    (client.endSession handle session connection.unlogged).unlogged =
      (client.endSession handle session connection).unlogged := by
  have ended (connection : Connection ℓ δ) :
      (client.endSession handle session connection).unlogged =
        if client.binding.handshake ∧ session ≠ 0 then
          (client.transmit handle (unregisterSession session) connection).2.unlogged
        else connection.unlogged := by
    unfold endSession
    split
    · split
      · rename_i failed
        rw [failed]
        rfl
      · rename_i done
        rw [done]
    · rfl
  rw [ended, ended, (client.transmit_unlogged handle connection (unregisterSession session)).2]
  rfl

theorem close_unlogged :
    (client.close connection.unlogged).unlogged = (client.close connection).unlogged := by
  rcases held : connection.link with _ | handle
  · have held' : connection.unlogged.link = none := held
    rw [client.close_of_none held, client.close_of_none held']
    rfl
  · have held' : connection.unlogged.link = some handle := held
    have ended := client.endSession_unlogged handle connection.unlinked connection.session
    have gone := client.release_unlogged handle
      (client.endSession handle connection.session connection.unlinked.unlogged)
    rw [ended, client.release_unlogged] at gone
    rw [client.close_of_link held, client.close_of_link held']
    exact gone.symm

/-- Connections that differ in their logs differ in nothing else once they are closed. -/
theorem close_congr {connection other : Connection ℓ δ}
    (same : connection.unlogged = other.unlogged) :
    (client.close connection).unlogged = (client.close other).unlogged := by
  rw [← client.close_unlogged connection, same, client.close_unlogged other]

/-- A connection that is closed twice is closed. -/
theorem close_close : client.close (client.close connection) = client.close connection := by
  obtain ⟨link, isOpen, session⟩ := client.close_sameLink connection
  have unlinked : (client.close connection).link = none := link
  rw [client.close_of_none unlinked]
  generalize client.close connection = closed at *
  cases closed
  cases link
  cases isOpen
  cases session
  rfl

/-- Where no link is to be had, none was held and none is. -/
theorem sameLink_of_unconnected {connection opened : Connection ℓ δ} {error : Error}
    (failed : client.connect connection = (.error error, opened)) :
    connection.link = none ∧ connection.SameLink opened := by
  rcases held : connection.link with _ | handle
  · refine ⟨rfl, ?_⟩
    rcases dialled : client.binding.dial client.settings connection.device with
      ⟨fault | handle, device⟩
    · rw [client.connect_of_refused held dialled] at failed
      cases failed
      exact ⟨rfl, rfl, rfl⟩
    · rw [client.connect_of_dialled held dialled] at failed
      have asked := client.exchange_sameLink handle RegisterSession.mk
        { connection.note .connecting with device }
      unfold adopt at failed
      split at failed
      · split at failed
        · rename_i denied
          cases failed
          rw [denied] at asked
          have gone := asked.trans (client.release_sameLink handle _)
          exact ⟨gone.link, gone.isOpen, gone.session⟩
        · cases failed
      · cases failed
  · rw [client.connect_of_link held] at failed
    cases failed

end Client

/-- If callers are told the truth of a link that is not there, there is nothing to take back. -/
theorem Connection.Honest.unlinked_eq {ℓ δ : Type} {handshake : Bool} {connection : Connection ℓ δ}
    (honest : connection.Honest handshake) (unlinked : connection.link = none) :
    connection.unlinked = connection := by
  have session := honest.session_eq_zero unlinked
  have isOpen := honest.isOpen
  cases connection
  cases unlinked
  cases isOpen
  cases session
  rfl

/-! ## The sequence of calls -/

/-- Writing the request fails for the size of a reply, of which there is nothing yet. -/
def BlamesReply {α ρ : Type} [Request α ρ] (request : α) : Prop :=
  ∃ size capacity, Request.frame request = .error (.replyTooLarge size capacity)

/-- Two ends of an execution with nothing between them but what was reported on the way. -/
structure SameEnd {ℓ δ α ρ : Type} (run other : Outcome ρ × α × Connection ℓ δ) : Prop where
  outcome : run.1 = other.1
  request : run.2.1 = other.2.1
  connection : run.2.2.unlogged = other.2.2.unlogged

namespace Client

variable {ℓ δ α ρ : Type} [Request α ρ] (client : Client ℓ δ) (request : α)

/-- What a caller does to get one reply: opens a link, moves the request to its session if there was
no link before, sends the request, and receives the reply, up to the first error. The request comes
back as it was sent. -/
def byHand (connection : Connection ℓ δ) : Except Error ρ × α × Connection ℓ δ :=
  match client.connect connection with
  | (.error error, opened) => (.error error, request, opened)
  | (.ok (), opened) =>
    let request :=
      if client.binding.handshake ∧ connection.isOpen = false then
        Request.rebind opened.session request
      else request
    match client.write request opened with
    | (.error error, written) => (.error error, request, written)
    | (.ok (), written) =>
      let (result, received) := client.read request written
      (result, request, received)

/-- The same, after which the caller closes a link that failed, and reports the failure as that of
the only attempt. -/
def executeByHand (connection : Connection ℓ δ) : Outcome ρ × α × Connection ℓ δ :=
  match client.byHand request connection with
  | (.error (.link fault), request, failed) =>
    (.failed (.exhausted 1 fault), request, client.close failed)
  | (result, request, settled) => (.ofResult result, request, settled)

/-- The same, where the caller also closes the link after a failure for the size of a reply. -/
def executeClosing (connection : Connection ℓ δ) : Outcome ρ × α × Connection ℓ δ :=
  match client.executeByHand request connection with
  | (.failed (.frame (.replyTooLarge size capacity)), request, settled) =>
    (.failed (.frame (.replyTooLarge size capacity)), request, client.close settled)
  | ended => ended

variable {client request} {connection opened after : Connection ℓ δ} {sent : α}
  {result : Except Error ρ}

/-- If a request is not sent for the size of a reply, it is that it cannot be written. -/
theorem blamesReply_of_unsent {handle : ℓ} {error : Error}
    (unsent : client.transmit handle request connection = (.error error, after))
    (oversized : Oversized (.error error : Except Error ρ)) : BlamesReply request := by
  obtain ⟨size, capacity, large⟩ := oversized
  cases large
  rcases written : Request.frame request with fault | frame
  · have failed := (client.transmit_of_unwritten handle request connection written).1
    rw [unsent] at failed
    cases failed
    exact ⟨size, capacity, written⟩
  · have failed := (client.transmit_of_written handle request connection written).1
    rcases sending : client.binding.send handle frame connection.device with ⟨fault | ⟨⟩, device⟩
    all_goals
      rw [unsent, sending] at failed
      cases failed

theorem executeByHand_of_fault {fault : LinkError}
    (done : client.byHand request connection = (.error (.link fault), sent, after)) :
    client.executeByHand request connection =
      (.failed (.exhausted 1 fault), sent, client.close after) := by
  rw [executeByHand, done]

theorem executeByHand_of_settled (done : client.byHand request connection = (result, sent, after))
    (settled : ¬Faulted result) :
    client.executeByHand request connection = (.ofResult result, sent, after) := by
  rw [executeByHand, done]
  split
  · rename_i fault _ _ same
    cases same
    exact absurd ⟨fault, rfl⟩ settled
  · rename_i same
    cases same
    rfl

theorem executeClosing_of_fault {fault : LinkError}
    (done : client.byHand request connection = (.error (.link fault), sent, after)) :
    client.executeClosing request connection = client.executeByHand request connection := by
  rw [executeClosing, executeByHand_of_fault done]

theorem executeClosing_of_oversized (oversized : Oversized result)
    (done : client.byHand request connection = (result, sent, after)) :
    client.executeClosing request connection = (.ofResult result, sent, client.close after) := by
  have steady : ¬Faulted result := by
    obtain ⟨_, _, rfl⟩ := oversized
    rintro ⟨_, ⟨⟩⟩
  obtain ⟨_, _, rfl⟩ := oversized
  rw [executeClosing, executeByHand_of_settled done steady]
  rfl

theorem executeClosing_of_small (small : ¬Oversized result)
    (done : client.byHand request connection = (result, sent, after)) (settled : ¬Faulted result) :
    client.executeClosing request connection = client.executeByHand request connection := by
  rw [executeClosing, executeByHand_of_settled done settled]
  split
  · rename_i size capacity _ _ same
    simp only [Prod.mk.injEq] at same
    exact absurd ⟨size, capacity, Outcome.of_failed same.1⟩ small
  · rfl

theorem byHand_of_unconnected {error : Error}
    (failed : client.connect connection = (.error error, opened)) :
    client.byHand request connection = (.error error, request, opened) := by
  rw [byHand, failed]

section

variable {handle : ℓ} {written : Connection ℓ δ}
  (honest : connection.Honest client.binding.handshake)
  (done : client.connect connection = (.ok (), opened)) (held : opened.link = some handle)

include honest

/-- What callers are told of the link decides in which session a request is sent, as the link itself
does in an attempt. -/
theorem bound_of_honest :
    client.bound request connection opened =
      if client.binding.handshake ∧ connection.isOpen = false then
        Request.rebind opened.session request
      else request := by
  rw [bound, honest.isOpen]
  simp only [Option.isSome_eq_false_iff, Option.isNone_iff_eq_none]

include done held

theorem byHand_of_unsent {error : Error} (unsent :
    client.transmit handle (client.bound request connection opened) opened =
      (.error error, written)) :
    client.byHand request connection =
      (.error error, client.bound request connection opened, written) := by
  rw [bound_of_honest honest] at unsent ⊢
  simp only [byHand, done, client.write_of_link _ held, unsent]

theorem byHand_of_sent (sending :
    client.transmit handle (client.bound request connection opened) opened = (.ok (), written)) :
    client.byHand request connection =
      ((client.dropOversized
          (client.receive handle (client.bound request connection opened) written)).1,
        client.bound request connection opened,
        (client.dropOversized
          (client.receive handle (client.bound request connection opened) written)).2) := by
  have kept := client.transmit_sameLink handle (client.bound request connection opened) opened
  rw [sending] at kept
  have held' : written.link = some handle := kept.link.trans held
  rw [bound_of_honest honest] at sending ⊢
  simp only [byHand, done, client.write_of_link _ held, sending, client.read_of_link _ held']

end

/-! ## Both come to the same -/

/-- The sequence of calls gets as far as an attempt does. Where the reply was too large for the
buffer, the link is closed once the caller has closed it; and the caller need not, unless the
request could not be written. -/
theorem byHand_of_attempt (honest : connection.Honest client.binding.handshake)
    (tried : client.attempt request connection = (result, sent, after)) :
    ∃ final, client.byHand request connection = (result, sent, final) ∧
      (Oversized result →
        (client.dropOversized (result, after)).2.unlogged = (client.close final).unlogged) ∧
      ((Oversized result → ¬BlamesReply sent) →
        (client.dropOversized (result, after)).2.unlogged = final.unlogged) := by
  have closing (oversized : Oversized result) :
      (client.dropOversized (result, after)).2.unlogged = (client.close after).unlogged := by
    obtain ⟨event, dropped⟩ := client.dropOversized_of_oversized after oversized
    rw [dropped]
    exact client.close_congr rfl
  rcases connected : client.connect connection with ⟨error | ⟨⟩, opened⟩
  · rw [client.attempt_of_error request connected] at tried
    cases tried
    refine ⟨after, byHand_of_unconnected connected, closing, fun _ => ?_⟩
    by_cases oversized : Oversized (.error error : Except Error ρ)
    · -- The connection closes a link that it does not hold.
      obtain ⟨unlinked, same⟩ := client.sameLink_of_unconnected connected
      have closed := client.close_of_none (same.link.trans unlinked)
      rw [(honest.of_sameLink same).unlinked_eq (same.link.trans unlinked)] at closed
      rw [closing oversized, closed]
    · rw [client.dropOversized_of_not_oversized after oversized]
  · obtain ⟨handle, held⟩ := client.link_of_connect connected
    rw [client.attempt_of_ok request connected held] at tried
    rcases sending : client.transmit handle (client.bound request connection opened) opened with
      ⟨error | ⟨⟩, written⟩
    · rw [client.exchange_of_unsent handle _ opened sending] at tried
      cases tried
      refine ⟨written, byHand_of_unsent honest connected held sending, closing, fun blameless => ?_⟩
      have small : ¬Oversized (.error error : Except Error ρ) := fun oversized =>
        blameless oversized (blamesReply_of_unsent sending oversized)
      rw [client.dropOversized_of_not_oversized written small]
    · rw [client.exchange_of_sent handle _ opened sending] at tried
      cases tried
      refine ⟨_, ?_, fun oversized => ?_, fun _ => rfl⟩
      · rw [byHand_of_sent honest connected held sending, dropOversized_result]
      · -- What has been read was dropped with the link, and closing it again does nothing.
        obtain ⟨event, dropped⟩ := client.dropOversized_of_oversized _ oversized
        rw [dropped, client.close_close]

/-- An execution of one attempt and the sequence of calls come to the same. -/
theorem execute_of_honest (request : α) (once : client.settings.attempts = 1)
    (honest : connection.Honest client.binding.handshake) :
    SameEnd (client.execute request connection) (client.executeClosing request connection) ∧
      (¬BlamesReply (client.execute request connection).2.1 →
        SameEnd (client.execute request connection)
          (client.executeByHand request connection)) := by
  have single : client.execute request connection = client.executeFrom 1 0 request connection := by
    rw [execute, once]
    rfl
  rw [single]
  rcases tried : client.attempt request connection with ⟨result, sent, after⟩
  obtain ⟨final, done, closed, same⟩ := byHand_of_attempt honest tried
  by_cases faulted : Faulted result
  · obtain ⟨fault, rfl⟩ := faulted
    have small : ¬Oversized (.error (.link fault) : Except Error ρ) := by
      rintro ⟨_, _, ⟨⟩⟩
    have kept := same fun oversized => absurd oversized small
    rw [client.dropOversized_of_not_oversized after small] at kept
    rw [executeClosing_of_fault done, executeFrom_of_last_fault 1 tried,
      executeByHand_of_fault done]
    have both : SameEnd (.failed (.exhausted 1 fault), sent,
        client.close (after.note (.attemptFailed 1 fault)))
        ((.failed (.exhausted 1 fault), sent, client.close final) : Outcome ρ × α × _) :=
      ⟨rfl, rfl, client.close_congr kept⟩
    exact ⟨both, fun _ => both⟩
  · rw [executeFrom_of_settled 1 0 tried faulted]
    by_cases oversized : Oversized result
    · rw [executeClosing_of_oversized oversized done, executeByHand_of_settled done faulted]
      exact ⟨⟨rfl, rfl, closed oversized⟩,
        fun blameless => ⟨rfl, rfl, same fun _ => blameless⟩⟩
    · rw [executeClosing_of_small oversized done faulted, executeByHand_of_settled done faulted]
      have kept := same fun large => absurd large oversized
      exact ⟨⟨rfl, rfl, kept⟩, fun _ => ⟨rfl, rfl, kept⟩⟩

variable (client) (device : δ)

/-- **An execution of one attempt does what its caller could do by hand.** After any run it ends as
the sequence of calls does, leaves the request in the same session, makes the same calls on links
with the same answers, and leaves the same connection and the same device behind, but for what is
reported. A request that cannot be written for the size of a reply is the one exception: there the
caller has to close the link in addition. After other failures for the size of a reply it is closed
already, and a caller that closes it makes no difference. -/
theorem execute_by_hand (operations : List (Operation α)) (request : α)
    (once : client.settings.attempts = 1) :
    let before := client.run operations (.start device)
    let run := client.execute request before
    let watched := client.watched.run operations (.start (.fresh device))
    let watchedRun := client.watched.execute request watched
    (watched.device.device = before.device ∧ watchedRun.2.2.device.device = run.2.2.device) ∧
    (SameEnd run (client.executeClosing request before) ∧
      SameEnd watchedRun (client.watched.executeClosing request watched)) ∧
    (¬BlamesReply run.2.1 →
      SameEnd run (client.executeByHand request before) ∧
      SameEnd watchedRun (client.watched.executeByHand request watched)) := by
  intro before run watched watchedRun
  have kept : client.Keeps (fun _ => True) (.start (Watched.fresh device)) watched :=
    client.run_keeps operations (fun _ _ _ _ => trivial) (.start _)
  have related : client.watching.Related watched before := client.watched_run operations device
  have honest : before.Honest client.binding.handshake := kept.honest.of_related related
  have once' : client.watched.settings.attempts = 1 := once
  have honest' : watched.Honest client.watched.binding.handshake := kept.honest
  obtain ⟨closing, byHand⟩ := execute_of_honest request once honest
  obtain ⟨closing', byHand'⟩ := execute_of_honest request once' honest'
  obtain ⟨-, sent, after⟩ := Simulation.execute_agree request related
  exact ⟨⟨related.device, after.device⟩, ⟨closing, closing'⟩,
    fun blameless => ⟨byHand blameless, byHand' (sent ▸ blameless)⟩⟩

end Client

/-- A device that registers sessions 7 and 8 and answers nothing: a request for session 7 goes out
in session 8, and the link is closed after the only attempt, as it would be by hand. -/
theorem execute_by_hand_unanswered :
    let client : Client Unit Rehearsal.Device :=
      ⟨Rehearsal.binding true, { Settings.device "device" 0 with retries := 1 },
        ⟨.ofMillis 500, Draws.cycle []⟩⟩
    let device : Rehearsal.Device := { Rehearsal.Device.mute with sessions := [7, 8] }
    let request : Encapsulated Bytes :=
      { command := .sendRequestReply, session := 7, payload := [2] }
    let opening : List (Operation (Encapsulated Bytes)) := [.connect, .close]
    let run := client.execute request (client.run opening (.start device))
    let byHand := client.byHand request (client.run opening (.start device))
    client.settings.attempts = 1 ∧ ¬BlamesReply run.2.1 ∧
      Outcome.ofResult byHand.1 = .failed (.link (.endOfStream 0 24)) ∧
      byHand.2.1.session = 8 ∧ byHand.2.2.isOpen = true ∧
      run.1 = .failed (.exhausted 1 (.endOfStream 0 24)) ∧
      run.2.1.session = 8 ∧ run.2.2.isOpen = false ∧
      SameEnd run (client.executeByHand request (client.run opening (.start device))) := by
  intro client device request opening run byHand
  have blameless : ¬BlamesReply run.2.1 := by
    rintro ⟨size, capacity, blamed⟩
    rcases Encapsulated.frame_error blamed with ⟨requested, large⟩ | ⟨buffer, failed⟩
    · cases large
    · obtain ⟨requested, large⟩ := buffer.put_error failed
      cases large
  obtain ⟨-, -, same⟩ := client.execute_by_hand device opening request rfl
  refine ⟨rfl, blameless, ?_, ?_, ?_, ?_, ?_, ?_, (same blameless).1⟩
  all_goals decide +kernel

/-- A request that cannot be written, and says that its reply is too large: an execution closes the
link, and the caller who writes it by hand is left with it. -/
theorem execute_by_hand_blamed :
    let client : Client Unit Rehearsal.Device :=
      ⟨Rehearsal.binding true, { Settings.device "device" 0 with retries := 1 },
        ⟨.ofMillis 500, Draws.cycle []⟩⟩
    let request : Rehearsal.Custom :=
      { bytes := [], failure := some (.replyTooLarge 700 600), sizing := .frame,
        verdict := .accept, session := none }
    let opening : List (Operation Rehearsal.Custom) := [.connect]
    let before := client.run opening (.start Rehearsal.Device.mute)
    let run := client.execute request before
    let byHand := client.executeByHand request before
    client.settings.attempts = 1 ∧ before.isOpen = true ∧
      run.1 = .failed (.frame (.replyTooLarge 700 600)) ∧ byHand.1 = run.1 ∧
      (run.2.2.isOpen = false ∧ run.2.2.device.shutdowns = 1) ∧
      (byHand.2.2.isOpen = true ∧ byHand.2.2.device.shutdowns = 0) ∧
      ¬SameEnd run byHand := by
  intro client request opening before run byHand
  have kept : byHand.2.2.isOpen = true := by decide +kernel
  have closed : run.2.2.isOpen = false := by decide +kernel
  refine ⟨rfl, by decide +kernel, by decide +kernel, by decide +kernel,
    ⟨closed, by decide +kernel⟩, ⟨kept, by decide +kernel⟩, fun same => ?_⟩
  have both := congrArg Connection.isOpen same.connection
  change run.2.2.isOpen = byHand.2.2.isOpen at both
  rw [closed, kept] at both
  cases both

end Enip
