import Enip.Proofs.Attempts

/-!
# Simulation

Two clients over different bindings, of which one does on its links what the other does on its own.
A `Simulation` relates the links and the devices of the two, such that related devices give the same
answers to the calls that a connection makes and stay related; how a link is given up may differ.
Connections are then `Related` if what callers see of them agrees, whatever the buffers and the logs
hold: each frame is written into a cleared buffer, and received into one.

Every operation takes related connections to related connections and gives the same answer
(`Simulation.execute_agree`), and so does every run (`Simulation.run_related`).
-/

namespace Enip

/-- Two results are the same, and what they leave behind is related. -/
def Agree {α σ τ : Type} (related : σ → τ → Prop) (first : α × σ) (second : α × τ) : Prop :=
  first.1 = second.1 ∧ related first.2 second.2

theorem Agree.imp {α σ τ : Type} {related weaker : σ → τ → Prop} {first : α × σ} {second : α × τ}
    (agree : Agree related first second) (implies : ∀ left right, related left right →
      weaker left right) : Agree weaker first second :=
  ⟨agree.1, implies _ _ agree.2⟩

theorem Agree.pairs {α σ τ : Type} {related : σ → τ → Prop} {first : α × σ} {second : α × τ}
    (agree : Agree related first second) :
    ∃ result left right,
      first = (result, left) ∧ second = (result, right) ∧ related left right := by
  obtain ⟨result, left⟩ := first
  obtain ⟨_, right⟩ := second
  obtain ⟨rfl, kept⟩ := agree
  exact ⟨_, left, right, rfl, rfl, kept⟩

/-- Two links were opened, or none for one reason, and what that leaves behind is related. -/
inductive Dialled {ℓ ℓ' δ δ' : Type} (links : ℓ → ℓ' → Prop) (devices : δ → δ' → Prop) :
    Except LinkError ℓ × δ → Except LinkError ℓ' × δ' → Prop
  | error {fault : LinkError} {device : δ} {device' : δ'} (related : devices device device') :
    Dialled links devices (.error fault, device) (.error fault, device')
  | ok {handle : ℓ} {handle' : ℓ'} {device : δ} {device' : δ'} (opened : links handle handle')
    (related : devices device device') :
    Dialled links devices (.ok handle, device) (.ok handle', device')

/-- The clients differ in nothing but their links and devices, and these answer alike. -/
structure Simulation {ℓ ℓ' δ δ' : Type} (client : Client ℓ δ) (other : Client ℓ' δ') where
  /-- Which links correspond. -/
  links : ℓ → ℓ' → Prop
  /-- Which states of the devices correspond. -/
  devices : δ → δ' → Prop
  settings : client.settings = other.settings
  backoff : client.backoff = other.backoff
  handshake : client.binding.handshake = other.binding.handshake
  dial {device : δ} {device' : δ'} (related : devices device device') :
    Dialled links devices (client.binding.dial client.settings device)
      (other.binding.dial other.settings device')
  send {handle : ℓ} {handle' : ℓ'} {device : δ} {device' : δ'} (frame : Bytes)
    (linked : links handle handle') (related : devices device device') :
    Agree devices (client.binding.send handle frame device)
      (other.binding.send handle' frame device')
  /-- Bytes are received alike into blank space, of which there is some. -/
  receive {handle : ℓ} {handle' : ℓ'} {device : δ} {device' : δ'} {size : Nat} (some : size ≠ 0)
    (linked : links handle handle') (related : devices device device') :
    Agree devices (client.binding.receive handle (List.replicate size 0) device)
      (other.binding.receive handle' (List.replicate size 0) device')
  shutdown {handle : ℓ} {handle' : ℓ'} {device : δ} {device' : δ'}
    (linked : links handle handle') (related : devices device device') :
    devices (client.binding.shutdown handle device).2 (other.binding.shutdown handle' device').2

namespace Simulation

variable {ℓ ℓ' δ δ' α ρ : Type} [Request α ρ] {client : Client ℓ δ} {other : Client ℓ' δ'}
  (simulation : Simulation client other)

/-- What callers see of two connections agrees, and the rest but for buffers and logs is related. -/
structure Related (connection : Connection ℓ δ) (connection' : Connection ℓ' δ') : Prop where
  link : Option.Rel simulation.links connection.link connection'.link
  isOpen : connection.isOpen = connection'.isOpen
  session : connection.session = connection'.session
  drawn : connection.drawn = connection'.drawn
  device : simulation.devices connection.device connection'.device

variable {simulation} {connection : Connection ℓ δ} {connection' : Connection ℓ' δ'}
  {handle : ℓ} {handle' : ℓ'}

/-- Either both connections hold a link or neither does. -/
theorem Related.link_cases (related : simulation.Related connection connection') :
    (connection.link = none ∧ connection'.link = none) ∨
      ∃ handle handle', connection.link = some handle ∧ connection'.link = some handle' ∧
        simulation.links handle handle' := by
  rcases held : connection.link with _ | handle <;>
    rcases held' : connection'.link with _ | handle' <;>
    have link := related.link <;> rw [held, held'] at link <;> cases link
  · exact Or.inl ⟨rfl, rfl⟩
  · exact Or.inr ⟨handle, handle', rfl, rfl, ‹_›⟩

/-- If no link corresponds to another than itself, both hold the same or neither holds one. -/
theorem Related.link_eq {client : Client ℓ δ} {other : Client ℓ δ'}
    {simulation : Simulation client other} {connection : Connection ℓ δ}
    {connection' : Connection ℓ δ'}
    (same : ∀ handle handle', simulation.links handle handle' → handle = handle')
    (related : simulation.Related connection connection') :
    connection.link = connection'.link := by
  rcases related.link_cases with ⟨none, none'⟩ | ⟨handle, handle', held, held', linked⟩
  · rw [none, none']
  · rw [held, held', same handle handle' linked]

theorem Related.note (related : simulation.Related connection connection') (event event' : Event) :
    simulation.Related (connection.note event) (connection'.note event') :=
  ⟨related.link, related.isOpen, related.session, related.drawn, related.device⟩

/-! ## Frames -/

/-- The device of the other client answers the same receives. -/
theorem receives {device after : δ} {device' : δ'} {receptions : List Reception}
    (linked : simulation.links handle handle') (related : simulation.devices device device')
    (blank : ∀ reception ∈ receptions, ∃ size, size ≠ 0 ∧ reception.space = List.replicate size 0)
    (received : Receives client.binding handle device receptions after) :
    ∃ after', Receives other.binding handle' device' receptions after' ∧
      simulation.devices after after' := by
  induction received generalizing device' with
  | nil => exact ⟨device', .nil, related⟩
  | @cons device next after space outcome receptions first _ ih =>
    obtain ⟨⟨size, some, shown⟩, others⟩ := List.forall_mem_cons.1 blank
    obtain rfl : space = List.replicate size 0 := shown
    obtain ⟨same, kept⟩ := simulation.receive some linked related
    rw [first] at same kept
    obtain ⟨after', rest, final⟩ := ih kept others
    exact ⟨after', .cons (Prod.ext same.symm rfl) rest, final⟩

theorem fillFrame_agree (replySize : Bytes → Nat) (buffer : FrameBuffer) {device : δ} {device' : δ'}
    (linked : simulation.links handle handle') (related : simulation.devices device device') :
    Agree (Agree simulation.devices) (Enip.fillFrame client.binding handle replySize buffer device)
      (Enip.fillFrame other.binding handle' replySize buffer device') := by
  obtain ⟨receptions, fills, received⟩ :=
    fillFrame_spec client.binding handle replySize buffer device
  obtain ⟨after', received', final⟩ := receives linked related fills.space_eq received
  rw [fills.fillFrame_eq received']
  exact ⟨rfl, rfl, final⟩

theorem transmit_agree (request : α) (linked : simulation.links handle handle')
    (related : simulation.Related connection connection') :
    Agree simulation.Related (client.transmit handle request connection)
      (other.transmit handle' request connection') := by
  obtain ⟨link, isOpen, session, drawn, device⟩ := related
  unfold Client.transmit FrameBuffer.clear
  split
  · exact ⟨rfl, link, isOpen, session, drawn, device⟩
  · rename_i buffer encoded
    obtain ⟨outcome, after, after', sent, sent', kept⟩ :=
      (simulation.send buffer.bytes linked device).pairs
    simp only [Connection.note, sent, sent']
    cases outcome <;> exact ⟨rfl, link, isOpen, session, drawn, kept⟩

theorem receive_agree (request : α) (linked : simulation.links handle handle')
    (related : simulation.Related connection connection') :
    Agree simulation.Related (client.receive handle request connection)
      (other.receive handle' request connection') := by
  obtain ⟨link, isOpen, session, drawn, device⟩ := related
  obtain ⟨outcome, after, after', filled, filled', kept⟩ :=
    (fillFrame_agree (Request.replySize request) .empty linked device).pairs
  obtain ⟨buffer, device, device', rfl, rfl, final⟩ := kept.pairs
  simp only [Client.receive, FrameBuffer.clear, filled, filled']
  cases outcome <;> exact ⟨rfl, link, isOpen, session, drawn, final⟩

theorem exchange_agree (request : α) (linked : simulation.links handle handle')
    (related : simulation.Related connection connection') :
    Agree simulation.Related (client.exchange handle request connection)
      (other.exchange handle' request connection') := by
  obtain ⟨outcome, after, after', sent, sent', kept⟩ :=
    (transmit_agree request linked related).pairs
  simp only [Client.exchange, sent, sent']
  cases outcome
  · exact ⟨rfl, kept⟩
  · exact receive_agree request linked kept

/-! ## Opening and closing -/

theorem release_related (linked : simulation.links handle handle')
    (related : simulation.Related connection connection') :
    simulation.Related (client.release handle connection) (other.release handle' connection') := by
  obtain ⟨link, isOpen, session, drawn, device⟩ := related
  have kept := simulation.shutdown linked device
  unfold Client.release
  split <;> rename_i left <;> split <;> rename_i right
  all_goals
    rw [left, right] at kept
    exact ⟨link, isOpen, session, drawn, kept⟩

theorem adopt_agree (linked : simulation.links handle handle')
    (related : simulation.Related connection connection') :
    Agree simulation.Related (client.adopt handle connection)
      (other.adopt handle' connection') := by
  unfold Client.adopt
  rw [simulation.handshake]
  split
  · obtain ⟨outcome, after, after', registered, registered', kept⟩ :=
      (exchange_agree RegisterSession.mk linked related).pairs
    simp only [registered, registered']
    cases outcome
    · exact ⟨rfl, release_related linked kept⟩
    · exact ⟨rfl, .some linked, rfl, rfl, kept.drawn, kept.device⟩
  · exact ⟨rfl, .some linked, rfl, related.session, related.drawn, related.device⟩

theorem connect_agree (related : simulation.Related connection connection') :
    Agree simulation.Related (client.connect connection) (other.connect connection') := by
  unfold Client.connect
  rcases related.link_cases with ⟨held, held'⟩ | ⟨handle, handle', held, held', -⟩
  · simp only [held, held', Connection.note]
    obtain ⟨-, isOpen, session, drawn, device⟩ := related
    have opened := simulation.dial device
    generalize client.binding.dial client.settings connection.device = first at opened
    generalize other.binding.dial other.settings connection'.device = second at opened
    cases opened with
    | error kept => exact ⟨rfl, .none, isOpen, session, drawn, kept⟩
    | ok linked kept => exact adopt_agree linked ⟨.none, isOpen, session, drawn, kept⟩
  · simp only [held, held']
    exact ⟨rfl, related⟩

theorem endSession_related (id : SessionId) (linked : simulation.links handle handle')
    (related : simulation.Related connection connection') :
    simulation.Related (client.endSession handle id connection)
      (other.endSession handle' id connection') := by
  unfold Client.endSession
  rw [simulation.handshake]
  split
  · obtain ⟨outcome, after, after', sent, sent', kept⟩ :=
      (transmit_agree (unregisterSession id) linked related).pairs
    simp only [sent, sent']
    cases outcome
    · exact kept.note _ _
    · exact kept
  · exact related

theorem close_related (related : simulation.Related connection connection') :
    simulation.Related (client.close connection) (other.close connection') := by
  unfold Client.close
  rcases related.link_cases with ⟨held, held'⟩ | ⟨handle, handle', held, held', linked⟩
  · simp only [held, held']
    exact ⟨.none, rfl, rfl, related.drawn, related.device⟩
  · simp only [held, held']
    have emptied : simulation.Related
        { connection with session := 0, isOpen := false, link := none }
        { connection' with session := 0, isOpen := false, link := none } :=
      ⟨.none, rfl, rfl, related.drawn, related.device⟩
    have ended := release_related linked (endSession_related connection.session linked emptied)
    rw [related.session] at ended ⊢
    exact ⟨ended.link, ended.isOpen, ended.session, ended.drawn, ended.device⟩

theorem finish_related (related : simulation.Related connection connection') :
    simulation.Related (client.finish connection) (other.finish connection') := by
  unfold Client.finish
  rw [related.isOpen]
  split
  · exact close_related related
  · exact related

/-! ## Operations -/

theorem dropOversized_agree {first : Except Error ρ × Connection ℓ δ}
    {second : Except Error ρ × Connection ℓ' δ'} (agree : Agree simulation.Related first second) :
    Agree simulation.Related (client.dropOversized first) (other.dropOversized second) := by
  obtain ⟨result, left, right, rfl, rfl, related⟩ := agree.pairs
  by_cases oversized : Oversized result
  · obtain ⟨event, dropped⟩ := client.dropOversized_of_oversized left oversized
    obtain ⟨event', dropped'⟩ := other.dropOversized_of_oversized right oversized
    rw [dropped, dropped']
    exact ⟨rfl, close_related (related.note event event')⟩
  · rw [client.dropOversized_of_not_oversized left oversized,
      other.dropOversized_of_not_oversized right oversized]
    exact ⟨rfl, related⟩

theorem write_agree (request : α) (related : simulation.Related connection connection') :
    Agree simulation.Related (client.write request connection)
      (other.write request connection') := by
  unfold Client.write Client.onLink
  rcases related.link_cases with ⟨held, held'⟩ | ⟨handle, handle', held, held', linked⟩
  · simp only [held, held']
    exact ⟨rfl, related⟩
  · simp only [held, held']
    exact transmit_agree request linked related

theorem read_agree (request : α) (related : simulation.Related connection connection') :
    Agree simulation.Related (client.read request connection)
      (other.read request connection') := by
  refine dropOversized_agree ?_
  unfold Client.onLink
  rcases related.link_cases with ⟨held, held'⟩ | ⟨handle, handle', held, held', linked⟩
  · simp only [held, held']
    exact ⟨rfl, related⟩
  · simp only [held, held']
    exact receive_agree request linked related

theorem bound_eq (request : α) {opened : Connection ℓ δ} {opened' : Connection ℓ' δ'}
    (before : simulation.Related connection connection')
    (after : simulation.Related opened opened') :
    client.bound request connection opened = other.bound request connection' opened' := by
  unfold Client.bound
  rw [simulation.handshake, after.session]
  rcases before.link_cases with ⟨held, held'⟩ | ⟨handle, handle', held, held', -⟩ <;>
    simp only [held, held', reduceCtorEq]

theorem attempt_agree (request : α) (related : simulation.Related connection connection') :
    Agree (Agree simulation.Related) (client.attempt request connection)
      (other.attempt request connection') := by
  obtain ⟨outcome, opened, opened', connected, connected', kept⟩ := (connect_agree related).pairs
  unfold Client.attempt Client.onLink
  simp only [connected, connected']
  cases outcome with
  | error error => exact ⟨rfl, rfl, kept⟩
  | ok _ =>
    dsimp only
    rw [bound_eq request related kept]
    rcases kept.link_cases with ⟨held, held'⟩ | ⟨handle, handle', held, held', linked⟩
    · simp only [held, held']
      exact ⟨rfl, rfl, kept⟩
    · simp only [held, held']
      obtain ⟨same, final⟩ := exchange_agree (other.bound request connection' opened') linked kept
      exact ⟨same, rfl, final⟩

theorem executeFrom_agree (number more : Nat) (request : α)
    (related : simulation.Related connection connection') :
    Agree (Agree simulation.Related) (client.executeFrom number more request connection)
      (other.executeFrom number more request connection') := by
  induction more generalizing number request connection connection' with
  | zero =>
    obtain ⟨result, rest, rest', tried, tried', agree⟩ := (attempt_agree request related).pairs
    obtain ⟨sent, after, after', rfl, rfl, kept⟩ := agree.pairs
    have tries : Agree simulation.Related (result, after) (result, after') := ⟨rfl, kept⟩
    by_cases faulted : Faulted result
    · obtain ⟨fault, rfl⟩ := faulted
      rw [Client.executeFrom_of_last_fault number tried,
        Client.executeFrom_of_last_fault number tried']
      exact ⟨rfl, rfl, close_related (kept.note _ _)⟩
    · rw [Client.executeFrom_of_settled number 0 tried faulted,
        Client.executeFrom_of_settled number 0 tried' faulted]
      exact ⟨rfl, rfl, (dropOversized_agree tries).2⟩
  | succ more ih =>
    obtain ⟨result, rest, rest', tried, tried', agree⟩ := (attempt_agree request related).pairs
    obtain ⟨sent, after, after', rfl, rfl, kept⟩ := agree.pairs
    have tries : Agree simulation.Related (result, after) (result, after') := ⟨rfl, kept⟩
    by_cases faulted : Faulted result
    · obtain ⟨fault, rfl⟩ := faulted
      have closed := close_related (kept.note (.attemptFailed number fault)
        (.attemptFailed number fault))
      obtain ⟨link, isOpen, session, drawn, device⟩ := closed
      rcases waiting : client.backoff.wait number
        (client.close (after.note (.attemptFailed number fault))).drawn with overflow | wait
      all_goals
        have waiting' := waiting
        rw [simulation.backoff, drawn] at waiting'
      · rw [Client.executeFrom_of_unable number tried rfl waiting,
          Client.executeFrom_of_unable number tried' rfl waiting']
        exact ⟨rfl, rfl, link, isOpen, session, congrArg (· + 1) drawn, device⟩
      · rw [Client.executeFrom_of_waited number tried rfl waiting,
          Client.executeFrom_of_waited number tried' rfl waiting']
        exact ih (number + 1) sent ⟨link, isOpen, session, congrArg (· + 1) drawn, device⟩
    · rw [Client.executeFrom_of_settled number (more + 1) tried faulted,
        Client.executeFrom_of_settled number (more + 1) tried' faulted]
      exact ⟨rfl, rfl, (dropOversized_agree tries).2⟩

theorem execute_agree (request : α) (related : simulation.Related connection connection') :
    Agree (Agree simulation.Related) (client.execute request connection)
      (other.execute request connection') := by
  unfold Client.execute
  rw [simulation.settings]
  exact executeFrom_agree 1 _ request related

theorem after_related (operation : Operation α)
    (related : simulation.Related connection connection') :
    simulation.Related (client.after operation connection) (other.after operation connection') := by
  cases operation with
  | connect => exact (connect_agree related).2
  | write request => exact (write_agree request related).2
  | read request => exact (read_agree request related).2
  | execute request => exact (execute_agree request related).2.2
  | close => exact close_related related

/-- **Runs of the two clients stay related.** -/
theorem run_related (operations : List (Operation α))
    (related : simulation.Related connection connection') :
    simulation.Related (client.run operations connection) (other.run operations connection') := by
  induction operations generalizing connection connection' with
  | nil => exact related
  | cons operation operations ih => exact ih (after_related operation related)

end Simulation

end Enip
