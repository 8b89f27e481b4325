import Enip.Proofs.Headers
import Enip.Proofs.Lifecycle
import Enip.Proofs.Reassembly
import Enip.Proofs.Serving

/-!
# In which session a request is sent

A request that names a session is moved to the session of the link over which it is sent if that
link was opened on its behalf, and to no other (`Client.execute_rebinds`): no attempt uses the
session of an attempt before it, and a reply in any other session is not taken. Nothing else of the
request changes (`Encapsulated.frame_eq`).

Over a link that is open already a request goes out as it is, in whichever session it names
(`Client.execute_as_built`). That need not be the session of the link
(`execute_other_session`).
-/

namespace Enip

/-! ## Frames of requests -/

/-- Whatever stands before it, the payload is written as these bytes. -/
def Payload.Writes {π ρ : Type} [Payload π ρ] (payload : π) (body : Bytes) : Prop :=
  ∀ buffer longer, Payload.encode payload buffer = (.ok (), longer) →
    longer.bytes = buffer.bytes ++ body

/-- Bytes are written as they are. -/
theorem Payload.writes_bytes (payload : Bytes) : Payload.Writes payload payload := by
  intro buffer longer written
  change buffer.put payload = _ at written
  unfold FrameBuffer.put at written
  split at written
  · cases written
    rfl
  · cases written

namespace Encapsulated

variable {π ρ : Type} [Payload π ρ] {request : Encapsulated π} {body frame : Bytes}

/-- Requests keep nothing of the sessions they came with. -/
theorem movable : Movable (Encapsulated π) := fun _ _ _ => rfl

/-- The frame of a request is a header, with its command, its session and its context, and then its
payload. -/
theorem frame_eq (writes : Payload.Writes request.payload body)
    (written : Request.frame request = .ok frame) :
    frame = (request.header (.ofNat (Payload.size request.payload))).bytes ++ body := by
  let header := request.header (.ofNat (Payload.size request.payload))
  have room : Header.size ≤ FrameBuffer.empty.spare := by decide
  obtain ⟨longer, encoded, bytes⟩ := header.encode_of_room room
  rcases whole : Encapsulated.encode request .empty with ⟨fault | ⟨⟩, longest⟩
  all_goals
    have same : Request.encode request .empty = _ := whole
    rw [Request.frame, same] at written
    cases written
  unfold Encapsulated.encode at whole
  dsimp only at whole
  split at whole
  · rw [encoded] at whole
    rw [writes longer longest whole, bytes]
    rfl
  · cases whole

/-- The session stands in its place. -/
theorem session_of_frame (writes : Payload.Writes request.payload body)
    (written : Request.frame request = .ok frame) :
    fieldAt 4 4 frame = request.session.toNat := by
  rw [frame_eq writes written, Header.fieldAt_session]
  rfl

end Encapsulated

/-! ## Without sessions -/

section

variable {ℓ δ α ρ : Type} [Request α ρ] {link other : Nat} {session : SessionId} {request : α}
  {calls : List Call} {frame : Bytes} {outcome : Except LinkError Unit}

theorem Exchanged.frame_of_sent {result : Except Error ρ}
    (exchanged : Exchanged link request result calls)
    (member : .sent other frame outcome ∈ calls) : Request.frame request = .ok frame := by
  cases exchanged with
  | unwritten _ => cases member
  | unsent written _ =>
    cases List.mem_singleton.1 member
    exact written
  | sent written _ =>
    rcases List.mem_cons.1 member with same | later
    · cases same
      exact written
    · obtain ⟨reception, -, other⟩ := List.mem_map.1 later
      cases other

theorem Asked.frame_of_sent (asked : Asked false link session request calls)
    (member : .sent other frame outcome ∈ calls) : Request.frame request = .ok frame := by
  obtain ⟨exchanged, parting⟩ := asked
  rcases List.mem_append.1 member with use | rest
  · exact exchanged.frame_of_sent use
  · cases parting with
    | held => cases rest
    | closed ending _ =>
      cases ending with
      | plain _ => cases List.mem_singleton.1 rest
      | registered handshaking _ => cases handshaking

theorem Served.frame_of_sent (served : Served false link request calls)
    (member : .sent other frame outcome ∈ calls) : Request.frame request = .ok frame := by
  cases served with
  | unregistered handshaking _ _ => cases handshaking
  | asked beginning asked =>
    cases beginning with
    | plain _ => exact asked.frame_of_sent member
    | registered handshaking _ => cases handshaking

/-- Where there are no sessions, nothing is sent but the request as it is. -/
theorem Serves.frame_of_sent {before after : Connection (Nat × ℓ) (Watched δ)} {new : List Call}
    (serves : Serves false request before after)
    (made : after.device.calls = before.device.calls ++ new)
    (member : .sent link frame outcome ∈ new) : Request.frame request = .ok frame := by
  have own : .sent link frame outcome ∈ callsOn link new :=
    List.mem_filter.2 ⟨member, decide_eq_true rfl⟩
  have all (link : Nat) : callsOn link after.device.calls =
      callsOn link before.device.calls ++ callsOn link new := by
    rw [made, callsOn_append]
  have opened : link < links after.device.calls :=
    serves.numbered _ (made ▸ List.mem_append_right _ member) link rfl
  by_cases old : link < links before.device.calls
  · by_cases held : ∃ handle, before.link = some (link, handle)
    · obtain ⟨handle, held⟩ := held
      obtain ⟨mine, added, asked⟩ := serves.held _ held
      rw [all] at added
      rw [List.append_cancel_left added] at own
      exact asked.frame_of_sent own
    · have none := serves.others link old fun handle same => held ⟨handle, same⟩
      rw [all, List.append_right_eq_self] at none
      rw [none] at own
      cases own
  · obtain ⟨mine, added, served⟩ := serves.served link (Nat.le_of_not_lt old) opened
    have later : .sent link frame outcome ∈ callsOn link after.device.calls := by
      rw [all]
      exact List.mem_append_right _ own
    rw [added] at later
    rcases List.mem_cons.1 later with first | use
    · cases first
    · exact served.frame_of_sent use

theorem Tries.sent_eq {sent : α} {before after : Connection (Nat × ℓ) (Watched δ)}
    {result : Except Error ρ} (tries : Tries false request before result sent after) :
    sent = request := by
  cases tries with
  | unopened _ _ _ _ => rfl
  | opened _ _ _ _ _ _ => rfl
  | kept _ _ _ _ => rfl

section

variable {client : Client ℓ δ} (plain : client.binding.handshake = false) {sent : α}
  {before after : Connection (Nat × ℓ) (Watched δ)}

include plain

theorem Client.sent_of_attempt {result : Except Error ρ}
    (tried : client.watched.attempt request before = (result, sent, after)) : sent = request := by
  have tries := client.attempt_tries request tried
  rw [plain] at tries
  exact tries.sent_eq

/-- Nor is it changed. -/
theorem Client.sent_of_executes {number more : Nat} {outcome : Outcome ρ}
    (executes : Executes client.watched number more request before outcome sent after) :
    sent = request := by
  induction executes with
  | settled tried _ => exact sent_of_attempt plain tried
  | exhausted tried => exact sent_of_attempt plain tried
  | aborted tried _ _ => exact sent_of_attempt plain tried
  | retried tried _ _ _ ih => exact ih.trans (sent_of_attempt plain tried)

end

end

/-! ## Sessions -/

namespace Client

variable {ℓ δ α β π ρ σ : Type} [Request β σ] [Payload π ρ] (client : Client ℓ δ) (device : δ)
  (operations : List (Operation β))

/-- The session of a link that is held was registered on it. -/
theorem Keeps.registeredOn {client : Client ℓ δ} {callers : Bytes → Prop} {device : δ}
    {connection : Connection (Nat × ℓ) (Watched δ)}
    (kept : client.Keeps callers (.start (.fresh device)) connection)
    (handshake : client.binding.handshake = true) {link : Nat × ℓ}
    (held : connection.link = some link) :
    RegisteredOn link.1 connection.session connection.device.calls := by
  have lives := Lives.of_entries kept.entries
  rw [Connection.account_of_link held, handshake] at lives
  exact lives.life_held.registeredOn

/-- Where a request gets a reply, it was sent as it is over the link that was held, or else it was
moved to the session of a link that was opened for it. -/
theorem Keeps.replied {client : Client ℓ δ} {device : δ} {number more : Nat}
    {request sent : Encapsulated π} {outcome : Outcome ρ}
    {before after : Connection (Nat × ℓ) (Watched δ)}
    (kept : client.Keeps (fun _ => True) (.start (.fresh device)) before)
    (handshake : client.binding.handshake = true)
    (executes : Executes client.watched number more request before outcome sent after) {reply : ρ}
    (done : outcome = .done reply) :
    (sent = request ∧ after.session = before.session ∧
      links after.device.calls = links before.device.calls) ∨
    (links before.device.calls < links after.device.calls ∧
      sent = { request with session := after.session } ∧
      ∃ link frame receptions earlier, after.link = some link ∧
        links before.device.calls ≤ link.1 ∧
        RegisteredOn link.1 after.session after.device.calls ∧
        after.device.calls =
          earlier ++ .sent link.1 frame (.ok ()) :: receptions.map (.received link.1) ∧
        fieldAt 4 4 (brought receptions) = after.session.toNat) := by
  obtain ⟨link, frame, receptions, earlier, held, written, made, decoded, origin⟩ :=
    replied_of_executes Encapsulated.movable executes kept.sound done
  rcases origin with ⟨-, unchanged, current, none⟩ | ⟨new, bound⟩
  · exact .inl ⟨unchanged, current, none⟩
  · have still : client.Keeps (fun _ => True) before after :=
      keeps_of_executes client request kept.honest (called_true request) executes
    have opened : link.1 < links after.device.calls := (kept.trans still).sound.opened link held
    have named : after.session ≠ 0 := still.honest.session.2 ⟨handshake, by rw [held]; rfl⟩
    have moved : sent = { request with session := after.session } := by
      rw [handshake] at bound
      exact bound
    rw [moved] at decoded
    exact .inr ⟨Nat.lt_of_le_of_lt new opened, moved, link, frame, receptions, earlier, held, new,
      (kept.trans still).registeredOn handshake held, made,
      Encapsulated.session_of_decode decoded named⟩

/-- **A request is moved to the session of a link that is opened for it**, and is otherwise sent as
it is. -/
theorem execute_rebinds (request : Encapsulated π) :
    let before := client.watched.run operations (.start (.fresh device))
    let run := client.watched.execute request before
    let unwatched := client.execute request (client.run operations (.start device))
    (run.1 = unwatched.1 ∧ run.2.1 = unwatched.2.1 ∧
      run.2.2.session = unwatched.2.2.session ∧ run.2.2.device.device = unwatched.2.2.device) ∧
    Serves client.binding.handshake request before run.2.2 ∧
    (∀ (session : SessionId) (body frame : Bytes), Payload.Writes request.payload body →
      Request.frame { request with session } = .ok frame →
      fieldAt 4 4 frame = session.toNat ∧ frame =
        ({ request with session }.header (.ofNat (Payload.size request.payload))).bytes ++ body) ∧
    (client.binding.handshake = true → ∀ reply, run.1 = .done reply →
      links before.device.calls < links run.2.2.device.calls →
      run.2.1 = { request with session := run.2.2.session } ∧
      ∃ link frame receptions earlier, run.2.2.link = some link ∧
        links before.device.calls ≤ link.1 ∧
        RegisteredOn link.1 run.2.2.session run.2.2.device.calls ∧
        run.2.2.device.calls =
          earlier ++ .sent link.1 frame (.ok ()) :: receptions.map (.received link.1) ∧
        fieldAt 4 4 (brought receptions) = run.2.2.session.toNat) ∧
    (client.binding.handshake = false → run.2.1 = request ∧
      ∃ new, run.2.2.device.calls = before.device.calls ++ new ∧
        ∀ link frame outcome, .sent link frame outcome ∈ new →
          Request.frame request = .ok frame) := by
  intro before run unwatched
  obtain ⟨same, sent, related⟩ :=
    Simulation.execute_agree request (client.watched_run operations device)
  have kept : client.Keeps (fun _ => True) (.start (Watched.fresh device)) before :=
    client.run_keeps operations (fun _ _ _ _ => trivial) (.start _)
  have executes : Executes client.watched 1 (client.settings.attempts.toNat - 1) request before
      run.1 run.2.1 run.2.2 := client.watched.executes ..
  have serves : Serves client.binding.handshake request before run.2.2 :=
    serves_of_executes Encapsulated.movable executes kept.sound
  refine ⟨⟨same, sent, related.session, related.device⟩, serves, ?_, ?_, fun plain => ⟨?_, ?_⟩⟩
  · intro session body frame writes written
    have moved : Payload.Writes ({ request with session } : Encapsulated π).payload body := writes
    exact ⟨Encapsulated.session_of_frame moved written, Encapsulated.frame_eq moved written⟩
  · intro handshake reply done opened
    rcases kept.replied handshake executes done with ⟨-, -, none⟩ | ⟨-, moved⟩
    · exact absurd none (Nat.ne_of_gt opened)
    · exact moved
  · exact sent_of_executes plain executes
  · obtain ⟨new, made⟩ := serves.calls
    rw [plain] at serves
    exact ⟨new, made.symm, fun link frame outcome => serves.frame_of_sent made.symm⟩

/-- **Over a link that is held already a request is sent as it is**, in whichever session it names.
Once there is a reply the request names the session of the connection if it did so before, or if it
had to be sent again over another link, and otherwise not. -/
theorem execute_as_built (request : Encapsulated π) {link : Nat × ℓ}
    (handshake : client.binding.handshake = true)
    (held : (client.watched.run operations (.start (.fresh device))).link = some link) :
    let before := client.watched.run operations (.start (.fresh device))
    let run := client.watched.execute request before
    let unwatched := client.execute request (client.run operations (.start device))
    (run.1 = unwatched.1 ∧ run.2.1 = unwatched.2.1 ∧
      run.2.2.session = unwatched.2.2.session ∧ run.2.2.device.device = unwatched.2.2.device ∧
      before.session = (client.run operations (.start device)).session) ∧
    RegisteredOn link.1 before.session before.device.calls ∧
    (∃ mine, callsOn link.1 run.2.2.device.calls = callsOn link.1 before.device.calls ++ mine ∧
      Asked true link.1 before.session request mine) ∧
    (∀ body frame, Payload.Writes request.payload body → Request.frame request = .ok frame →
      (fieldAt 4 4 frame = before.session.toNat ↔ request.session = before.session)) ∧
    ∀ reply, run.1 = .done reply → (run.2.1.session = run.2.2.session ↔
      request.session = before.session ∨
        links before.device.calls < links run.2.2.device.calls) := by
  intro before run unwatched
  have started := client.watched_run operations device
  obtain ⟨same, sent, related⟩ := Simulation.execute_agree request started
  have kept : client.Keeps (fun _ => True) (.start (Watched.fresh device)) before :=
    client.run_keeps operations (fun _ _ _ _ => trivial) (.start _)
  have executes : Executes client.watched 1 (client.settings.attempts.toNat - 1) request before
      run.1 run.2.1 run.2.2 := client.watched.executes ..
  refine ⟨⟨same, sent, related.session, related.device, started.session⟩,
    kept.registeredOn handshake held, ?_, ?_, fun reply done => ?_⟩
  · have serves := serves_of_executes Encapsulated.movable executes kept.sound
    rw [handshake] at serves
    exact serves.held link held
  · intro body frame writes written
    rw [Encapsulated.session_of_frame writes written]
    exact UInt32.toNat_inj
  · rcases kept.replied handshake executes done with ⟨unchanged, current, none⟩ | ⟨new, moved, -⟩
    · rw [unchanged, current, none]
      exact (or_iff_left (Nat.lt_irrefl _)).symm
    · rw [moved]
      exact ⟨fun _ => .inr new, fun _ => rfl⟩

end Client

/-- A device that registers session 7 and answers one request. -/
def Rehearsal.Device.seven : Rehearsal.Device :=
  { Rehearsal.Device.mute with
    sessions := [7]
    replies := [.deliver (some ⟨[1], none, none, none, none, none, none⟩) []] }

/-- A request that names session 7 goes out in session 7, which is that of the link. -/
theorem execute_as_built_seven :
    let client : Client Unit Rehearsal.Device :=
      ⟨Rehearsal.binding true, .device "device" 0, ⟨.ofMillis 500, Draws.cycle []⟩⟩
    let request : Encapsulated Bytes :=
      { command := .sendRequestReply, session := 7, payload := [2] }
    let opening : List (Operation (Encapsulated Bytes)) := [.connect]
    let before := client.watched.run opening (.start (.fresh .seven))
    let run := client.watched.execute request before
    client.binding.handshake = true ∧ before.link = some (0, ()) ∧ before.session = 7 ∧
      (∃ frame, Request.frame request = .ok frame ∧ fieldAt 4 4 frame = before.session.toNat) ∧
      run.1 = .done [1] ∧ run.2.1.session = run.2.2.session := by
  intro client request opening before run
  have held : before.link = some (0, ()) := by decide +kernel
  have session : before.session = 7 := by decide +kernel
  have done : run.1 = .done [1] := by decide +kernel
  have written : Request.frame request =
      .ok ([0x6f, 0, 1, 0, 7, 0, 0, 0] ++ List.replicate 16 0 ++ [2]) := by cbv
  obtain ⟨-, -, -, frames, replies⟩ := client.execute_as_built .seven opening request rfl held
  exact ⟨rfl, held, session,
    ⟨_, written, (frames _ _ (Payload.writes_bytes [2]) written).2 session.symm⟩, done,
    (replies [1] done).2 (.inl session.symm)⟩

/-- A request that names no session goes out in none, although the link has one; and it names none
when the reply is there. -/
theorem execute_other_session :
    let client : Client Unit Rehearsal.Device :=
      ⟨Rehearsal.binding true, .device "device" 0, ⟨.ofMillis 500, Draws.cycle []⟩⟩
    let request : Encapsulated Bytes :=
      { command := .sendRequestReply, session := 0, payload := [2] }
    let opening : List (Operation (Encapsulated Bytes)) := [.connect]
    let before := client.run opening (.start .seven)
    let run := client.execute request before
    client.binding.handshake = true ∧ before.isOpen = true ∧ before.session = 7 ∧
      run.1 = .done [1] ∧ (∃ frame, run.2.2.device.sent = before.device.sent ++ [frame] ∧
        fieldAt 4 4 frame ≠ before.session.toNat) ∧
      run.2.2.session = 7 ∧ run.2.1.session ≠ run.2.2.session := by
  intro client request opening before run
  refine ⟨rfl, ?_, ?_, ?_, ⟨[0x6f, 0, 1, 0] ++ List.replicate 20 0 ++ [2], ?_, ?_⟩, ?_, ?_⟩
  all_goals decide +kernel

end Enip
