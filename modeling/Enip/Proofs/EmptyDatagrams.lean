import Enip.Link.Datagram
import Enip.Proofs.Retrying

/-!
# Datagrams that carry nothing

An empty datagram may come at any time, and there is nothing in it. A receive passes it over as long
as there is space for anything, and the receiving loop asks for nothing once there is none. So
nothing that comes of a connection shows whether there were any.

Without them fewer datagrams wait on a socket (`Socket.pruned`), and a peer answers with fewer
(`Peer.pruned`). A client does the same with and without them (`Datagram.pruning`). Nor are they
taken for the end of a stream: what comes of links that are `Client.Endless` is never blamed on it.
`Datagram.empties_invisible` puts the two together.
-/

namespace Enip

/-! ## Links that do not end -/

section Endless

variable {ℓ δ : Type}

/-- All that goes wrong on the links of a client is of one kind, and none of them ends. -/
structure Client.Endless (client : Client ℓ δ) (kind : LinkError → Prop) : Prop where
  dial {device : δ} {fault : LinkError} :
    (client.binding.dial client.settings device).1 = .error fault → kind fault
  send {handle : ℓ} {frame : Bytes} {device : δ} {fault : LinkError} :
    (client.binding.send handle frame device).1 = .error fault → kind fault
  receive {handle : ℓ} {size : Nat} {device : δ} {fault : LinkError} (room : size ≠ 0) :
    (client.binding.receive handle (List.replicate size 0) device).1 = .error fault → kind fault
  /-- What is received is not nothing. -/
  claimed {handle : ℓ} {size : Nat} {device : δ} {delivery : Delivery} (room : size ≠ 0) :
    (client.binding.receive handle (List.replicate size 0) device).1 = .ok delivery →
      delivery.claimed ≠ 0

namespace Client.Endless

variable {α ρ : Type} [Request α ρ] {client : Client ℓ δ} {kind : LinkError → Prop}
  (endless : client.Endless kind) {handle : ℓ} {request : α} {connection : Connection ℓ δ}
  {fault : LinkError}
include endless

theorem of_fills {replySize : Bytes → Nat} {buffer longer : FrameBuffer}
    {receptions : List Reception} {device after : δ}
    (fills : Fills replySize buffer receptions (.error (.link fault)) longer)
    (receives : Receives client.binding handle device receptions after) : kind fault := by
  generalize failed : (.error (.link fault) : Except Error Unit) = result at fills
  induction fills generalizing device with
  | full _ => cases failed
  | fault room _ =>
    cases failed
    rcases receives with _ | ⟨first, -⟩
    exact endless.receive room (congrArg Prod.fst first)
  | ended room none =>
    rcases receives with _ | ⟨first, -⟩
    exact absurd none (endless.claimed room (congrArg Prod.fst first))
  | whole _ _ _ => cases failed
  | more _ _ _ _ ih =>
    rcases receives with _ | ⟨-, rest⟩
    exact ih rest failed

theorem of_transmit
    (failed : (client.transmit handle request connection).1 = .error (.link fault)) :
    kind fault := by
  rcases written : Request.frame request with unwritten | frame
  · rw [(client.transmit_of_unwritten handle request connection written).1] at failed
    cases failed
  · rw [(client.transmit_of_written handle request connection written).1] at failed
    rcases sent : (client.binding.send handle frame connection.device).1 with cause | ⟨⟩
    all_goals
      rw [sent] at failed
      cases failed
    exact endless.send sent

theorem of_receive (failed : (client.receive handle request connection).1 =
    (.error (.link fault) : Except Error ρ)) : kind fault := by
  obtain ⟨receptions, filled, longer, fills, receives, result⟩ :=
    client.receive_spec handle request connection
  rw [failed] at result
  rcases filled with error | ⟨⟩
  · cases result
    exact endless.of_fills fills receives
  · -- The frame is there, and what is wrong with it is no fault of the link.
    rcases read : Request.decode request longer.bytes with objection | reply
    all_goals
      rw [read] at result
      cases result

theorem of_exchange (failed : (client.exchange handle request connection).1 =
    (.error (.link fault) : Except Error ρ)) : kind fault := by
  rcases transmitted : client.transmit handle request connection with ⟨error | ⟨⟩, waiting⟩
  · rw [client.exchange_of_unsent handle request connection transmitted] at failed
    cases failed
    exact endless.of_transmit (congrArg Prod.fst transmitted)
  · rw [client.exchange_of_sent handle request connection transmitted] at failed
    exact endless.of_receive failed

theorem of_connect (failed : (client.connect connection).1 = .error (.link fault)) :
    kind fault := by
  rcases held : connection.link with _ | handle
  · rcases dialled : client.binding.dial client.settings connection.device with
      ⟨cause | handle, device⟩
    · rw [client.connect_of_refused held dialled] at failed
      cases failed
      exact endless.dial (congrArg Prod.fst dialled)
    · rw [client.connect_of_dialled held dialled] at failed
      unfold adopt at failed
      split at failed
      · split at failed <;> cases failed
        rename_i denied
        exact endless.of_exchange (congrArg Prod.fst denied)
      · cases failed
  · rw [client.connect_of_link held] at failed
    cases failed

/-- Reading a reply fails in this way, or because there is no link. -/
theorem of_read (failed : (client.read request connection).1 =
    (.error (.link fault) : Except Error ρ)) : kind fault ∨ fault = .notConnected := by
  rcases held : connection.link with _ | handle
  · rw [client.read_of_none request held] at failed
    cases failed
    exact .inr rfl
  · rw [client.read_of_link request held, client.dropOversized_result] at failed
    exact .inl (endless.of_receive failed)

/-- An attempt fails in this way. -/
theorem of_attempt (failed : (client.attempt request connection).1 =
    (.error (.link fault) : Except Error ρ)) : kind fault := by
  rcases connected : client.connect connection with ⟨error | ⟨⟩, opened⟩
  · rw [client.attempt_of_error request connected] at failed
    cases failed
    exact endless.of_connect (congrArg Prod.fst connected)
  · obtain ⟨handle, held⟩ := client.link_of_connect connected
    rw [client.attempt_of_ok request connected held] at failed
    exact endless.of_exchange failed

/-- An execution runs out of attempts that fail in this way. -/
theorem of_concludes {limit number attempts : Nat} {trial : Trial ℓ δ α} {outcome : Outcome ρ}
    {after : Connection ℓ δ} (concludes : Concludes client limit number trial outcome after)
    (failed : outcome = .failed (.exhausted attempts fault)) : kind fault := by
  cases concludes with
  | settled _ =>
    rcases trial.error_cases client (Outcome.of_failed failed) with ⟨_, same⟩ | ⟨_, same⟩
    · cases same
    · cases same
  | exhausted _ faulted =>
    cases failed
    exact endless.of_attempt faulted
  | aborted _ _ _ => cases failed

end Client.Endless

end Endless

/-! ## Empty datagrams -/

namespace Datagram

variable {π : Type}

/-- The datagrams that are not empty. -/
def pruned (datagrams : List Bytes) : List Bytes := datagrams.filter fun datagram => datagram ≠ []

/-- The socket without the empty datagrams that wait. -/
def Socket.pruned (socket : Socket π) : Socket π :=
  { socket with inbox := Datagram.pruned socket.inbox }

/-- The peer that answers alike, but for empty datagrams. -/
def Peer.pruned (peer : Peer π) : Peer π where
  lookup := peer.lookup
  connect := peer.connect
  take bytes state :=
    let (result, state) := peer.take bytes state
    (result.map (Prod.map id Datagram.pruned), state)

/-! ### Inboxes -/

section Inboxes

variable {datagram : Bytes} (inbox : List Bytes) {space : Nat}

theorem pruned_of_empty : pruned ([] :: inbox) = pruned inbox := by simp [pruned]

theorem pruned_of_ne_nil (something : datagram ≠ []) :
    pruned (datagram :: inbox) = datagram :: pruned inbox := by simp [pruned, something]

theorem next?_of_empty (room : space ≠ 0) : next? space ([] :: inbox) = next? space inbox := by
  rw [next?, if_pos ⟨rfl, room⟩]

theorem next?_of_ne_nil (something : datagram ≠ []) :
    next? space (datagram :: inbox) = some (datagram.take space, inbox) := by
  rw [next?, if_neg fun passed => something passed.1]

/-- Where there is space, the next datagram is the next that is not empty. -/
theorem next?_pruned (room : space ≠ 0) :
    next? space (pruned inbox) = (next? space inbox).map (Prod.map id pruned) := by
  induction inbox with
  | nil => rfl
  | cons datagram inbox ih =>
    by_cases nothing : datagram = []
    · subst nothing
      rw [pruned_of_empty, next?_of_empty inbox room, ih]
    · rw [pruned_of_ne_nil inbox nothing, next?_of_ne_nil (pruned inbox) nothing,
        next?_of_ne_nil inbox nothing]
      rfl

example : next? 16 [[], [1, 2, 3], [4, 5]] = some ([1, 2, 3], [[4, 5]]) := by decide

/-- There is something in what is received where there is space. -/
theorem ne_nil_of_next? {bytes : Bytes} {later : List Bytes} (room : space ≠ 0)
    (found : next? space inbox = some (bytes, later)) : bytes ≠ [] := by
  induction inbox with
  | nil => cases found
  | cons datagram inbox ih =>
    by_cases nothing : datagram = []
    · subst nothing
      rw [next?_of_empty inbox room] at found
      exact ih found
    · rw [next?_of_ne_nil inbox nothing] at found
      cases found
      simp [List.take_eq_nil_iff, nothing, room]

end Inboxes

/-! ### Calls -/

section Calls

variable (peer : Peer π) (socket : Socket π)

theorem dial_pruned (settings : Settings) :
    dial peer.pruned settings socket.pruned =
      ((dial peer settings socket).1, (dial peer settings socket).2.pruned) := by
  rcases resolved : settings.resolve peer.lookup socket.state with ⟨fault | ⟨address, _⟩, found⟩
  · simp only [dial, resolved, Peer.pruned, Socket.pruned]
  · rcases met : peer.connect address found with ⟨report | ⟨⟩, state⟩ <;>
      simp only [dial, resolved, Peer.pruned, Socket.pruned, met] <;> rfl

theorem send_pruned (timeout : Duration) (bytes : Bytes) :
    send peer.pruned timeout bytes socket.pruned =
      ((send peer timeout bytes socket).1, (send peer timeout bytes socket).2.pruned) := by
  rcases taken : peer.take bytes socket.state with ⟨report | ⟨sent, arriving⟩, state⟩
  · simp only [send, Peer.pruned, Socket.pruned, taken, Except.map]
  · simp only [send, Peer.pruned, Socket.pruned, taken, Except.map, Datagram.pruned, Prod.map, id,
      List.filter_append]

theorem receive_pruned (timeout : Duration) {size : Nat} (room : size ≠ 0) :
    receive timeout (List.replicate size 0) socket.pruned =
      ((receive timeout (List.replicate size 0) socket).1,
        (receive timeout (List.replicate size 0) socket).2.pruned) := by
  unfold receive
  rw [List.length_replicate, Socket.pruned, next?_pruned socket.inbox room]
  rcases next? size socket.inbox with _ | ⟨bytes, inbox⟩ <;> rfl

end Calls

/-! ### Clients -/

variable (peer : Peer π) (settings : Settings) (backoff : Backoff)

/-- The client that talks to a peer. -/
def client : Client Duration (Socket π) := ⟨binding peer, settings, backoff⟩

/-- The client does the same without empty datagrams. -/
def pruning : Simulation (client peer settings backoff) (client peer.pruned settings backoff) where
  links := Eq
  devices socket socket' := socket' = socket.pruned
  settings := rfl
  backoff := rfl
  handshake := rfl
  dial := by
    rintro socket _ rfl
    dsimp only [client, binding]
    rw [dial_pruned]
    rcases dial peer settings socket with ⟨fault | timeout, after⟩
    · exact .error rfl
    · exact .ok rfl rfl
  send := by
    rintro timeout _ socket _ frame rfl rfl
    dsimp only [client, binding]
    rw [send_pruned]
    exact ⟨rfl, rfl⟩
  receive := by
    rintro timeout _ socket _ size room rfl rfl
    dsimp only [client, binding]
    rw [receive_pruned socket timeout room]
    exact ⟨rfl, rfl⟩
  shutdown := by
    rintro timeout _ socket _ rfl rfl
    rfl

theorem resolve_ne_endOfStream (lookup : Lookup π) (state : π) (received expected : Nat) :
    (settings.resolve lookup state).1 ≠ .error (.endOfStream received expected) := by
  unfold Settings.resolve
  split <;> nofun

theorem ofIo_ne_endOfStream (report : IoError) (timeout : Duration) (received expected : Nat) :
    LinkError.ofIo report timeout ≠ .endOfStream received expected := by
  unfold LinkError.ofIo
  split <;> nofun

/-- There is no stream that could end. -/
theorem endless : (client peer settings backoff).Endless fun fault =>
    ∀ received expected, fault ≠ .endOfStream received expected where
  dial {socket fault} failed := by
    dsimp only [client, binding, dial] at failed
    split at failed
    · rename_i unresolved
      cases failed
      rintro received expected rfl
      exact resolve_ne_endOfStream settings peer.lookup socket.state received expected
        (congrArg Prod.fst unresolved)
    · split at failed <;> cases failed
      nofun
  send {timeout frame socket fault} failed := by
    dsimp only [client, binding, send] at failed
    split at failed
    · cases failed
      exact ofIo_ne_endOfStream _ timeout
    · dsimp only at failed
      split at failed <;> cases failed
      nofun
  receive {timeout size socket fault} _ failed := by
    dsimp only [client, binding, receive] at failed
    split at failed <;> cases failed
    nofun
  claimed {timeout size socket delivery} room received := by
    dsimp only [client, binding, receive] at received
    split at received <;> cases received
    rename_i found
    rw [List.length_replicate] at found
    exact fun none => ne_nil_of_next? socket.inbox room found (List.eq_nil_of_length_eq_zero none)

/-! ### Connections -/

/-- The connection whose socket has no empty datagrams waiting. -/
def withoutEmpties (connection : Connection Duration (Socket π)) : Connection Duration (Socket π) :=
  { connection with device := connection.device.pruned }

/-- Callers see no difference between two connections, and those datagrams wait on the second that
wait on the first and are not empty. -/
structure Alike (connection connection' : Connection Duration (Socket π)) : Prop where
  link : connection.link = connection'.link
  isOpen : connection.isOpen = connection'.isOpen
  session : connection.session = connection'.session
  drawn : connection.drawn = connection'.drawn
  /-- The same datagrams wait, but for the empty ones, and the peers are in the same state. -/
  device : connection'.device = connection.device.pruned

variable {peer settings backoff} {connection connection' : Connection Duration (Socket π)}

theorem alike_of_related
    (related : (pruning peer settings backoff).Related connection connection') :
    Alike connection connection' :=
  ⟨related.link_eq fun _ _ same => same, related.isOpen, related.session, related.drawn,
    related.device⟩

theorem related_withoutEmpties (connection : Connection Duration (Socket π)) :
    (pruning peer settings backoff).Related connection (withoutEmpties connection) := by
  refine ⟨?_, rfl, rfl, rfl, rfl⟩
  unfold withoutEmpties
  cases connection.link with
  | none => exact .none
  | some _ => exact .some rfl

variable {α ρ : Type} [Request α ρ]

/-- Two attempts are for the same request, with the same result, and make the same of the request
and of the connection. -/
structure AlikeTrials (client other : Client Duration (Socket π))
    (trial trial' : Trial Duration (Socket π) α) : Prop where
  request : trial.request = trial'.request
  before : Alike trial.before trial'.before
  after : Agree (Agree Alike) (client.attempt trial.request trial.before)
    (other.attempt trial'.request trial'.before)

theorem alikeTrials_of_tried {trial trial' : Trial Duration (Socket π) α}
    (tried : (pruning peer settings backoff).Tried trial trial') :
    AlikeTrials (client peer settings backoff) (client peer.pruned settings backoff) trial trial' :=
  ⟨tried.request, alike_of_related tried.before,
    tried.agree.imp fun _ _ agree => agree.imp fun _ _ => alike_of_related⟩

variable (peer settings backoff)

/-- **Empty datagrams make no difference.** Any of the datagrams that wait, and of those that come
in answer to others, may be empty. Without these a reply is read with the same result, and leaves
the same datagrams but for the empty ones; so does every attempt of an execution, of which there are
as many. And no reading of a reply and no attempt fails for the end of a stream. -/
theorem empties_invisible (request : α) (connection : Connection Duration (Socket π)) :
    let client := client peer settings backoff
    let other := Datagram.client peer.pruned settings backoff
    let pruned := withoutEmpties connection
    Agree Alike (client.read request connection) (other.read request pruned) ∧
    Agree (Agree Alike) (client.execute request connection) (other.execute request pruned) ∧
    (∃ (later later' : List (Trial Duration (Socket π) α)) (waits waits' : List Duration),
      Accounts client settings.attempts.toNat ⟨request, connection⟩ later waits
        (client.execute request connection).1 (client.execute request connection).2.2 ∧
      Accounts other settings.attempts.toNat ⟨request, pruned⟩ later' waits'
        (other.execute request pruned).1 (other.execute request pruned).2.2 ∧
      List.Forall₂ (AlikeTrials client other) (⟨request, connection⟩ :: later)
        (⟨request, pruned⟩ :: later')) ∧
    ∀ received expected,
      (client.read request connection).1 ≠ .error (.link (.endOfStream received expected)) ∧
      (client.attempt request connection).1 ≠ .error (.link (.endOfStream received expected)) ∧
      ∀ attempts, (client.execute request connection).1 ≠
        .failed (.exhausted attempts (.endOfStream received expected)) := by
  intro client other pruned
  have related : (pruning peer settings backoff).Related connection pruned :=
    related_withoutEmpties connection
  have endless := endless peer settings backoff
  obtain ⟨later, later', waits, waits', accounts, accounts', tried⟩ :=
    Simulation.execute_tried request related
  refine ⟨(Simulation.read_agree request related).imp fun _ _ => alike_of_related,
    (Simulation.execute_agree request related).imp fun _ _ agree =>
      agree.imp fun _ _ => alike_of_related,
    ⟨later, later', waits, waits', accounts, accounts',
      tried.imp fun _ _ => alikeTrials_of_tried⟩, fun received expected => ⟨?_, ?_, ?_⟩⟩
  · intro failed
    rcases endless.of_read failed with other | none
    · exact other received expected rfl
    · cases none
  · intro failed
    exact endless.of_attempt failed received expected rfl
  · intro attempts failed
    exact endless.of_concludes accounts.ended failed received expected rfl

end Datagram

end Enip
