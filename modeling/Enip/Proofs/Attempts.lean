import Enip.Proofs.Framing

/-!
# Links and attempts, case by case

What opening a link and executing a request come to, one equation for each way in which they can
go. `connect_of_link`, `connect_of_refused` and `connect_of_dialled` describe `Client.connect`,
`attempt_of_error` and `attempt_of_ok` one attempt. An execution ends with the first attempt that
is not cut short by a fault of the link (`executeFrom_of_settled`); after one that is, it closes the
link, and gives up (`executeFrom_of_last_fault`, `executeFrom_of_unable`) or waits and goes on
(`executeFrom_of_waited`). `Client.executes` puts them together.
-/

namespace Enip

/-! ## Giving a link up -/

/-- A connection that holds no link, with nothing else changed. -/
def Connection.unlinked {ℓ δ : Type} (connection : Connection ℓ δ) : Connection ℓ δ :=
  { connection with link := none, isOpen := false, session := 0 }

namespace Client

variable {ℓ δ : Type} (client : Client ℓ δ) (handle : ℓ) {connection : Connection ℓ δ}

theorem release_sameLink (connection : Connection ℓ δ) :
    connection.SameLink (client.release handle connection) := by
  unfold release
  split <;> exact ⟨rfl, rfl, rfl⟩

theorem endSession_sameLink (session : SessionId) (connection : Connection ℓ δ) :
    connection.SameLink (client.endSession handle session connection) := by
  have same := client.transmit_sameLink handle (unregisterSession session) connection
  unfold endSession
  split
  · split
    · rename_i failed
      rw [failed] at same
      exact ⟨same.link, same.isOpen, same.session⟩
    · rename_i done
      rwa [done] at same
  · exact .refl connection

/-- The device hears of the end of a session, if there is one, and of nothing else. -/
theorem endSession_device (session : SessionId) (connection : Connection ℓ δ) :
    (client.endSession handle session connection).device =
      if client.binding.handshake ∧ session ≠ 0 then
        (client.transmit handle (unregisterSession session) connection).2.device
      else connection.device := by
  unfold endSession
  split
  · split
    · rename_i failed
      rw [failed]
      rfl
    · rename_i done
      rw [done]
  · rfl

theorem close_of_none (unlinked : connection.link = none) :
    client.close connection = connection.unlinked := by
  cases connection
  cases unlinked
  rfl

theorem close_of_link {handle : ℓ} (held : connection.link = some handle) :
    client.close connection =
      (client.release handle
        (client.endSession handle connection.session connection.unlinked)).note .closed := by
  simp only [close, held, Connection.unlinked]

/-- Once it was closed, callers are told of no link. -/
theorem close_sameLink (connection : Connection ℓ δ) :
    connection.unlinked.SameLink (client.close connection) := by
  rcases held : connection.link with _ | handle
  · rw [client.close_of_none held]
  · rw [client.close_of_link held]
    have ended := client.endSession_sameLink handle connection.session connection.unlinked
    have gone := client.release_sameLink handle
      (client.endSession handle connection.session connection.unlinked)
    exact ⟨(ended.trans gone).link, (ended.trans gone).isOpen, (ended.trans gone).session⟩

/-- No link is held once it was closed. -/
theorem link_of_close (connection : Connection ℓ δ) : (client.close connection).link = none :=
  (client.close_sameLink connection).link

end Client

/-! ## Replies too large for the buffer -/

/-- The reply was too large for the buffer. -/
def Oversized {ρ : Type} (result : Except Error ρ) : Prop :=
  ∃ size capacity, result = .error (.frame (.replyTooLarge size capacity))

theorem not_oversized_ok {ρ : Type} (reply : ρ) : ¬Oversized (.ok reply : Except Error ρ) := by
  rintro ⟨_, _, ⟨⟩⟩

namespace Client

variable {ℓ δ ρ : Type} (client : Client ℓ δ) {result : Except Error ρ}
  (connection : Connection ℓ δ)

theorem dropOversized_of_oversized (oversized : Oversized result) :
    ∃ event, client.dropOversized (result, connection) =
      (result, client.close (connection.note event)) := by
  obtain ⟨size, capacity, rfl⟩ := oversized
  exact ⟨_, rfl⟩

theorem dropOversized_of_not_oversized (small : ¬Oversized result) :
    client.dropOversized (result, connection) = (result, connection) := by
  unfold dropOversized
  split
  · rename_i size capacity _ same
    cases same
    exact absurd ⟨size, capacity, rfl⟩ small
  · rfl

/-- That the link is closed makes no difference to the result. -/
theorem dropOversized_result : (client.dropOversized (result, connection)).1 = result := by
  by_cases oversized : Oversized result
  · obtain ⟨event, dropped⟩ := client.dropOversized_of_oversized connection oversized
    rw [dropped]
  · rw [client.dropOversized_of_not_oversized connection oversized]

end Client

/-! ## Opening a link -/

namespace Client

variable {ℓ δ α ρ : Type} [Request α ρ] (client : Client ℓ δ) {connection opened : Connection ℓ δ}
  {handle : ℓ} {device : δ}

theorem connect_of_link (held : connection.link = some handle) :
    client.connect connection = (.ok (), connection) := by
  simp only [connect, held]

theorem connect_of_refused {fault : LinkError} (held : connection.link = none)
    (dialled : client.binding.dial client.settings connection.device = (.error fault, device)) :
    client.connect connection =
      (.error (.link fault), { connection.note .connecting with device }) := by
  simp only [connect, held, Connection.note, dialled]

theorem connect_of_dialled (held : connection.link = none)
    (dialled : client.binding.dial client.settings connection.device = (.ok handle, device)) :
    client.connect connection =
      client.adopt handle { connection.note .connecting with device } := by
  simp only [connect, held, Connection.note, dialled]

theorem adopt_of_unregistered {error : Error} (handshake : client.binding.handshake = true)
    (registered : client.exchange handle RegisterSession.mk connection = (.error error, opened)) :
    client.adopt handle connection = (.error error, client.release handle opened) := by
  simp only [adopt, handshake, registered, if_true]

theorem adopt_of_registered {session : SessionId} (handshake : client.binding.handshake = true)
    (registered : client.exchange handle RegisterSession.mk connection = (.ok session, opened)) :
    client.adopt handle connection =
      (.ok (), { opened.note (.registered session) with
        session, link := some handle, isOpen := true }) := by
  simp only [adopt, handshake, registered, if_true]

theorem adopt_of_plain (plain : client.binding.handshake = false) :
    client.adopt handle connection =
      (.ok (), { connection with link := some handle, isOpen := true }) := by
  simp [adopt, plain]

/-- A link is held once one was opened. -/
theorem link_of_connect (done : client.connect connection = (.ok (), opened)) :
    ∃ handle, opened.link = some handle := by
  rcases held : connection.link with _ | handle
  · rcases dialled : client.binding.dial client.settings connection.device with
      ⟨fault | handle, device⟩
    · rw [client.connect_of_refused held dialled] at done
      cases done
    · rw [client.connect_of_dialled held dialled] at done
      unfold adopt at done
      split at done
      · split at done
        · cases done
        · cases done
          exact ⟨handle, rfl⟩
      · cases done
        exact ⟨handle, rfl⟩
  · rw [client.connect_of_link held] at done
    cases done
    exact ⟨handle, held⟩

variable (request : α)

/-! ## Requests and replies by themselves -/

theorem write_of_none (unlinked : connection.link = none) :
    client.write request connection = (.error (.link .notConnected), connection) := by
  simp only [write, onLink, unlinked]

theorem write_of_link (held : connection.link = some handle) :
    client.write request connection = client.transmit handle request connection := by
  simp only [write, onLink, held]

theorem read_of_none (unlinked : connection.link = none) :
    client.read request connection = (.error (.link .notConnected), connection) := by
  simp only [read, onLink, unlinked, dropOversized]

theorem read_of_link (held : connection.link = some handle) :
    client.read request connection =
      client.dropOversized (client.receive handle request connection) := by
  simp only [read, onLink, held]

/-! ## Attempts -/

theorem attempt_of_error {error : Error}
    (failed : client.connect connection = (.error error, opened)) :
    client.attempt request connection = (.error error, request, opened) := by
  simp only [attempt, failed]

theorem attempt_of_ok (done : client.connect connection = (.ok (), opened))
    (held : opened.link = some handle) :
    client.attempt request connection =
      ((client.exchange handle (client.bound request connection opened) opened).1,
        client.bound request connection opened,
        (client.exchange handle (client.bound request connection opened) opened).2) := by
  simp only [attempt, done, onLink, held]

end Client

/-- The link failed, and another attempt may do better. -/
def Faulted {ρ : Type} (result : Except Error ρ) : Prop := ∃ fault, result = .error (.link fault)

theorem not_faulted_ok {ρ : Type} (reply : ρ) : ¬Faulted (.ok reply : Except Error ρ) := by
  rintro ⟨_, ⟨⟩⟩

/-- How an execution ends that ends with an attempt. -/
def Outcome.ofResult {ρ : Type} : Except Error ρ → Outcome ρ
  | .ok reply => .done reply
  | .error error => .failed error

theorem Outcome.of_failed {ρ : Type} {result : Except Error ρ} {error : Error}
    (failed : Outcome.ofResult result = .failed error) : result = .error error := by
  cases result
  all_goals cases failed
  rfl

namespace Client

variable {ℓ δ α ρ : Type} [Request α ρ] {client : Client ℓ δ} {connection after : Connection ℓ δ}
  {request sent : α} (number : Nat)

theorem executeFrom_of_settled {result : Except Error ρ} (more : Nat)
    (tried : client.attempt request connection = (result, sent, after))
    (settled : ¬Faulted result) :
    client.executeFrom number more request connection =
      (.ofResult result, sent, (client.dropOversized (result, after)).2) := by
  rcases result with (fault | fault | _) | reply
  · exact absurd ⟨fault, rfl⟩ settled
  all_goals
    rw [executeFrom, tried]
    rfl

theorem executeFrom_of_last_fault {fault : LinkError}
    (tried : client.attempt request connection = (.error (.link fault), sent, after)) :
    client.executeFrom number 0 request connection =
      (.failed (.exhausted number fault), sent,
        client.close (after.note (.attemptFailed number fault))) := by
  rw [executeFrom, tried]

theorem executeFrom_of_unable {fault : LinkError} {more : Nat} {closed : Connection ℓ δ}
    {overflow : DelayOverflow}
    (tried : client.attempt request connection = (.error (.link fault), sent, after))
    (closing : closed = client.close (after.note (.attemptFailed number fault)))
    (unable : client.backoff.wait number closed.drawn = .error overflow) :
    client.executeFrom number (more + 1) request connection =
      (.aborted overflow, sent, closed.draw) := by
  subst closing
  rw [executeFrom, tried]
  simp only [unable]

theorem executeFrom_of_waited {fault : LinkError} {more : Nat} {closed : Connection ℓ δ}
    {wait : Duration}
    (tried : client.attempt request connection = (.error (.link fault), sent, after))
    (closing : closed = client.close (after.note (.attemptFailed number fault)))
    (waited : client.backoff.wait number closed.drawn = .ok wait) :
    client.executeFrom number (more + 1) request connection =
      client.executeFrom (number + 1) more sent
        ((closed.draw.note (.retrying wait fault)).sleep wait) := by
  subst closing
  rw [executeFrom, tried]
  simp only [waited]

end Client

/-- The executions of a request, attempt by attempt: `Executes client number more request before
outcome sent after` says how one goes that begins with the attempt of number `number` and may make
`more` attempts after it. -/
inductive Executes {ℓ δ α ρ : Type} [Request α ρ] (client : Client ℓ δ) :
    Nat → Nat → α → Connection ℓ δ → Outcome ρ → α → Connection ℓ δ → Prop
  /-- The attempt is not cut short by a fault of the link. -/
  | settled {number more : Nat} {request sent : α} {before after : Connection ℓ δ}
    {result : Except Error ρ} (tried : client.attempt request before = (result, sent, after))
    (settled : ¬Faulted result) :
    Executes client number more request before (.ofResult result) sent
      (client.dropOversized (result, after)).2
  | exhausted {number : Nat} {request sent : α} {before after : Connection ℓ δ} {fault : LinkError}
    (tried : client.attempt request before =
      ((.error (.link fault) : Except Error ρ), sent, after)) :
    Executes client number 0 request before (.failed (.exhausted number fault)) sent
      (client.close (after.note (.attemptFailed number fault)))
  /-- There is no telling how long to wait for the next. -/
  | aborted {number more : Nat} {request sent : α} {before after closed : Connection ℓ δ}
    {fault : LinkError} {overflow : DelayOverflow}
    (tried : client.attempt request before = ((.error (.link fault) : Except Error ρ), sent, after))
    (closing : closed = client.close (after.note (.attemptFailed number fault)))
    (unable : client.backoff.wait number closed.drawn = .error overflow) :
    Executes client number (more + 1) request before (.aborted overflow) sent
      closed.draw
  | retried {number more : Nat} {request sent final : α}
    {before after closed settled : Connection ℓ δ} {fault : LinkError} {wait : Duration}
    {outcome : Outcome ρ}
    (tried : client.attempt request before = ((.error (.link fault) : Except Error ρ), sent, after))
    (closing : closed = client.close (after.note (.attemptFailed number fault)))
    (waited : client.backoff.wait number closed.drawn = .ok wait)
    (rest : Executes client (number + 1) more sent
      ((closed.draw.note (.retrying wait fault)).sleep wait) outcome final settled) :
    Executes client number (more + 1) request before outcome final settled

/-- **Every execution goes attempt by attempt.** -/
theorem Client.executes {ℓ δ α ρ : Type} [Request α ρ] (client : Client ℓ δ) (number more : Nat)
    (request : α) (connection : Connection ℓ δ) :
    Executes client number more request connection
      (client.executeFrom number more request connection).1
      (client.executeFrom number more request connection).2.1
      (client.executeFrom number more request connection).2.2 := by
  induction more generalizing number request connection with
  | zero =>
    rcases tried : client.attempt request connection with ⟨result, sent, after⟩
    by_cases faulted : Faulted result
    · obtain ⟨fault, rfl⟩ := faulted
      rw [executeFrom_of_last_fault number tried]
      exact .exhausted tried
    · rw [executeFrom_of_settled number 0 tried faulted]
      exact .settled tried faulted
  | succ more ih =>
    rcases tried : client.attempt request connection with ⟨result, sent, after⟩
    by_cases faulted : Faulted result
    · obtain ⟨fault, rfl⟩ := faulted
      rcases waiting : client.backoff.wait number
        (client.close (after.note (.attemptFailed number fault))).drawn with overflow | wait
      · rw [executeFrom_of_unable number tried rfl waiting]
        exact .aborted tried rfl waiting
      · rw [executeFrom_of_waited number tried rfl waiting]
        exact .retried tried rfl waiting (ih ..)
    · rw [executeFrom_of_settled number (more + 1) tried faulted]
      exact .settled tried faulted

end Enip
