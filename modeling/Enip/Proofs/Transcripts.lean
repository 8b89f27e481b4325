import Enip.Proofs.Ledger

/-!
# The calls of each step

What each step of a watched client adds to the calls made so far, with one constructor for every way
in which the step can go. `Exchanged` is a request and what is received in reply to it, `Connects`
the opening of a link, and `Tries` one attempt of an execution; `Client.close_calls` tells how a
link is given up. All that is said of the calls of an operation is read off these.
-/

namespace Enip

/-! ## Exchanges -/

section

variable {α ρ : Type} [Request α ρ]

/-- What is received in reply to a request, and what is made of it. -/
def Heard (request : α) (receptions : List Reception) (result : Except Error ρ) : Prop :=
  ∃ filled longer, Fills (Request.replySize request) .empty receptions filled longer ∧
    result = filled.bind fun _ => (Request.decode request longer.bytes).mapError .frame

/-- The calls of an exchange on a link, and its result. -/
inductive Exchanged (link : Nat) (request : α) : Except Error ρ → List Call → Prop
  | unwritten {fault : FrameError} (unwritten : Request.frame request = .error fault) :
    Exchanged link request (.error (.frame fault)) []
  | unsent {frame : Bytes} (written : Request.frame request = .ok frame) (fault : LinkError) :
    Exchanged link request (.error (.link fault)) [.sent link frame (.error fault)]
  | sent {frame : Bytes} (written : Request.frame request = .ok frame)
    {receptions : List Reception} {result : Except Error ρ}
    (heard : Heard request receptions result) :
    Exchanged link request result (.sent link frame (.ok ()) :: receptions.map (.received link))

/-- A reply is read from the bytes of all receptions. -/
theorem Heard.decode_ok {request : α} {receptions : List Reception} {reply : ρ}
    (heard : Heard request receptions (.ok reply)) :
    Request.decode request (brought receptions) = .ok reply := by
  obtain ⟨filled, longer, fills, result⟩ := heard
  have bytes : longer.bytes = brought receptions := congrArg FrameBuffer.bytes fills.eq_gather
  rcases filled with error | ⟨⟩
  · cases result
  · rcases read : Request.decode request longer.bytes with fault | found
    all_goals
      rw [read] at result
      cases result
    rw [← bytes, read]

/-- An exchange fails for the link or for a frame. -/
theorem Heard.error_cases {request : α} {receptions : List Reception} {error : Error}
    (heard : Heard request receptions (.error error : Except Error ρ)) :
    (∃ fault, error = .link fault) ∨ ∃ fault, error = .frame fault := by
  obtain ⟨filled, longer, fills, result⟩ := heard
  rcases filled with failure | ⟨⟩
  · cases result
    rcases fills.error_cases with link | ⟨size, capacity, large⟩
    · exact .inl link
    · exact .inr ⟨_, large⟩
  · rcases read : Request.decode request longer.bytes with fault | found
    all_goals
      rw [read] at result
      cases result
    exact .inr ⟨fault, rfl⟩

/-- If a reply cannot be read, it is too large, or all of it has come. -/
theorem Heard.frame_cases {request : α} {receptions : List Reception} {fault : FrameError}
    (heard : Heard request receptions (.error (.frame fault) : Except Error ρ)) :
    (∃ size capacity, fault = .replyTooLarge size capacity) ∨
      (Request.replySize request (brought receptions) ≤ (brought receptions).length ∧
        Request.decode request (brought receptions) = .error fault) := by
  obtain ⟨filled, longer, fills, result⟩ := heard
  have bytes : longer.bytes = brought receptions := congrArg FrameBuffer.bytes fills.eq_gather
  rcases filled with failure | ⟨⟩
  · cases result
    rcases fills.error_cases with ⟨fault, link⟩ | ⟨size, capacity, large⟩
    · cases link
    · exact .inl ⟨size, capacity, Error.frame.inj large⟩
  · have enough := fills.le_size
    rw [FrameBuffer.size, bytes] at enough
    rw [bytes] at result
    rcases read : Request.decode request (brought receptions) with failure | reply
    all_goals
      rw [read] at result
      cases result
    exact .inr ⟨enough, rfl⟩

theorem Exchanged.error_cases {link : Nat} {request : α} {error : Error} {calls : List Call}
    (exchanged : Exchanged link request (.error error : Except Error ρ) calls) :
    (∃ fault, error = .link fault) ∨ ∃ fault, error = .frame fault := by
  cases exchanged with
  | unwritten _ => exact .inr ⟨_, rfl⟩
  | unsent _ fault => exact .inl ⟨fault, rfl⟩
  | sent _ heard => exact heard.error_cases

/-- A reply is received in the end. -/
theorem Exchanged.ok_cases {link : Nat} {request : α} {reply : ρ} {calls : List Call}
    (exchanged : Exchanged link request (.ok reply) calls) : ∃ frame receptions,
      calls = .sent link frame (.ok ()) :: receptions.map (.received link) ∧
      Request.frame request = .ok frame ∧
      Request.decode request (brought receptions) = .ok reply := by
  cases exchanged with
  | sent written heard => exact ⟨_, _, rfl, written, heard.decode_ok⟩

theorem Exchanged.onLink {link : Nat} {request : α} {result : Except Error ρ} {calls : List Call}
    (exchanged : Exchanged link request result calls) : OnLink link calls := by
  cases exchanged with
  | unwritten _ => nofun
  | unsent _ fault => exact OnLink.sent link _ (.error fault)
  | @sent frame _ receptions _ _ =>
    exact (OnLink.sent link frame (.ok ())).append (OnLink.received link receptions)

end

/-- Where a session is asked for, it is granted or not. -/
theorem Exchanged.registration {link : Nat} {result : Except Error SessionId} {calls : List Call}
    (exchanged : Exchanged link RegisterSession.mk result calls) :
    Registration link result.toOption calls := by
  cases exchanged with
  | unwritten unwritten =>
    rw [RegisterSession.frame_eq] at unwritten
    cases unwritten
  | unsent written fault =>
    rw [RegisterSession.frame_eq] at written
    cases written
    exact .unsent fault
  | @sent _ written receptions result heard =>
    rw [RegisterSession.frame_eq] at written
    cases written
    rcases result with error | session
    · refine .denied fun session decoded => ?_
      obtain ⟨filled, longer, fills, result⟩ := heard
      have bytes : longer.bytes = brought receptions := congrArg FrameBuffer.bytes fills.eq_gather
      rcases filled with failure | ⟨⟩
      · -- What was received before the link failed is no frame.
        have short : longer.size < frameSize longer.bytes := fills.size_lt (by decide)
        have whole := (RegisterSession.decode_ok decoded).1
        rw [← bytes] at whole
        exact Nat.ne_of_gt short whole.announced
      · have read : Request.decode RegisterSession.mk longer.bytes = .ok session := bytes ▸ decoded
        rw [read] at result
        cases result
    · exact .granted heard.decode_ok

namespace Client

variable {ℓ δ α ρ : Type} [Request α ρ] (client : Client ℓ δ) (link : Nat × ℓ) (request : α)
  (connection : Connection (Nat × ℓ) (Watched δ))

theorem calls_of_receives {device after : Watched δ} {receptions : List Reception}
    (receives : Receives client.watched.binding link device receptions after) :
    after.calls = device.calls ++ receptions.map (.received link.1) := by
  induction receives with
  | nil => exact (List.append_nil _).symm
  | cons first _ ih =>
    cases first
    rw [ih]
    exact List.append_assoc ..

theorem transmit_calls {frame : Bytes} (written : Request.frame request = .ok frame) :
    ∃ outcome, (client.watched.transmit link request connection).1 = outcome.mapError .link ∧
      (client.watched.transmit link request connection).2.device.calls =
        connection.device.calls ++ [.sent link.1 frame outcome] := by
  obtain ⟨result, device⟩ := client.watched.transmit_of_written link request connection written
  exact ⟨_, result, congrArg Watched.calls device⟩

theorem receive_heard : ∃ receptions,
    Heard request receptions (client.watched.receive link request connection).1 ∧
      (client.watched.receive link request connection).2.device.calls =
        connection.device.calls ++ receptions.map (.received link.1) := by
  obtain ⟨receptions, filled, longer, fills, receives, result⟩ :=
    client.watched.receive_spec link request connection
  exact ⟨receptions, ⟨filled, longer, fills, result⟩, client.calls_of_receives link receives⟩

theorem exchange_exchanged : ∃ calls,
    Exchanged link.1 request (client.watched.exchange link request connection).1 calls ∧
      (client.watched.exchange link request connection).2.device.calls =
        connection.device.calls ++ calls := by
  rcases written : Request.frame request with fault | frame
  · obtain ⟨failed, same⟩ := client.watched.transmit_of_unwritten link request connection written
    rw [client.watched.exchange_of_unsent link request connection (Prod.ext failed rfl), same]
    exact ⟨[], .unwritten written, (List.append_nil _).symm⟩
  · obtain ⟨outcome, sent, calls⟩ := client.transmit_calls link request connection written
    rcases outcome with fault | ⟨⟩
    · rw [client.watched.exchange_of_unsent link request connection (Prod.ext sent rfl)]
      exact ⟨_, .unsent written fault, calls⟩
    · rw [client.watched.exchange_of_sent link request connection (Prod.ext sent rfl)]
      obtain ⟨receptions, heard, more⟩ := client.receive_heard link request
        (client.watched.transmit link request connection).2
      refine ⟨_, .sent written heard, ?_⟩
      rw [more, calls, List.append_assoc]
      rfl

end Client

/-! ## Opening a link -/

/-- The calls by which a link is opened, and its session or the reason why there is no link. -/
inductive Opening (handshake : Bool) (link : Nat) : Except Error SessionId → List Call → Prop
  | refused (fault : LinkError) : Opening handshake link (.error (.link fault)) [.refused fault]
  /-- There is a link, but no session on it. -/
  | unregistered (handshaking : handshake = true) {error : Error} {registration : List Call}
    (denied : Exchanged link RegisterSession.mk (.error error : Except Error SessionId)
      registration) (outcome : Except LinkError Unit) :
    Opening handshake link (.error error) (.opened link :: (registration ++ [.shut link outcome]))
  | plain (plain : handshake = false) : Opening handshake link (.ok 0) [.opened link]
  | registered (handshaking : handshake = true) {session : SessionId} {registration : List Call}
    (granted : Exchanged link RegisterSession.mk (.ok session) registration) :
    Opening handshake link (.ok session) (.opened link :: registration)

theorem Opening.beginning {handshake : Bool} {link : Nat} {session : SessionId} {calls : List Call}
    (opening : Opening handshake link (.ok session) calls) :
    ∃ begun, calls = .opened link :: begun ∧ Beginning handshake link session begun := by
  cases opening with
  | plain plain => exact ⟨[], rfl, .plain plain⟩
  | registered handshaking granted => exact ⟨_, rfl, .registered handshaking granted.registration⟩

theorem Opening.error_cases {handshake : Bool} {link : Nat} {error : Error} {calls : List Call}
    (opening : Opening handshake link (.error error) calls) :
    (∃ fault, error = .link fault) ∨ ∃ fault, error = .frame fault := by
  cases opening with
  | refused fault => exact .inl ⟨fault, rfl⟩
  | unregistered _ denied _ => exact denied.error_cases

/-- Whether or not a link is there to stay, its opening is an entry. -/
theorem Opening.entry {handshake : Bool} {callers : Bytes → Prop} {before calls : List Call}
    {session : Except Error SessionId} (opening : Opening handshake (links before) session calls) :
    Entry handshake callers ⟨none, before⟩
      ⟨session.toOption.map (links before, ·), before ++ calls⟩ := by
  cases opening with
  | refused fault => exact .refused fault
  | unregistered handshaking denied outcome =>
    exact .unregistered handshaking denied.registration outcome
  | plain plain => exact .opened (.plain plain)
  | registered handshaking granted => exact .opened (.registered handshaking granted.registration)

/-- There is a session on a new link if one is asked for. -/
theorem Opening.session_ne_zero_iff {handshake : Bool} {link : Nat} {session : SessionId}
    {calls : List Call} (opening : Opening handshake link (.ok session) calls) :
    session ≠ 0 ↔ handshake = true := by
  cases opening with
  | plain plain => simp [plain]
  | registered handshaking granted =>
    obtain _ | _ | decoded := granted.registration
    exact ⟨fun _ => handshaking, fun _ => (RegisterSession.decode_ok decoded).2⟩

theorem Opening.session_eq {handshake : Bool} {link : Nat} {session : SessionId}
    {calls : List Call} (opening : Opening handshake link (.ok session) calls) :
    (if handshake then session else 0) = session := by
  cases opening with
  | plain plain => exact if_neg (by simp [plain])
  | registered handshaking _ => exact if_pos handshaking

section

variable {ℓ δ : Type} (handshake : Bool)

/-- What opening a link does to a connection, with its result. -/
inductive Connects (before : Connection (Nat × ℓ) (Watched δ)) :
    Except Error Unit → Connection (Nat × ℓ) (Watched δ) → Prop
  | kept {link : Nat × ℓ} (held : before.link = some link) : Connects before (.ok ()) before
  | failed {after : Connection (Nat × ℓ) (Watched δ)} {error : Error} {calls : List Call}
    (unlinked : before.link = none) (same : before.SameLink after)
    (opening : Opening handshake (links before.device.calls) (.error error) calls)
    (made : after.device.calls = before.device.calls ++ calls) :
    Connects before (.error error) after
  | opened {after : Connection (Nat × ℓ) (Watched δ)} {session : SessionId} {handle : ℓ}
    {calls : List Call} (unlinked : before.link = none)
    (held : after.link = some (links before.device.calls, handle)) (isOpen : after.isOpen = true)
    (current : after.session = if handshake then session else before.session)
    (opening : Opening handshake (links before.device.calls) (.ok session) calls)
    (made : after.device.calls = before.device.calls ++ calls) :
    Connects before (.ok ()) after

end

/-- Where no link is held, connecting is the opening of one. -/
theorem Connects.of_unlinked {ℓ δ : Type} {handshake : Bool}
    {before after : Connection (Nat × ℓ) (Watched δ)} {result : Except Error Unit}
    (connects : Connects handshake before result after) (unlinked : before.link = none) :
    ∃ (session : Except Error SessionId) (calls : List Call),
      Opening handshake (links before.device.calls) session calls ∧
      after.device.calls = before.device.calls ++ calls ∧ result = session.map (fun _ => ()) ∧
      after.link.map Prod.fst = session.toOption.map (fun _ => links before.device.calls) ∧
      after.session =
        if handshake then session.toOption.getD before.session else before.session := by
  cases connects with
  | kept held => cases unlinked.symm.trans held
  | failed _ same opening made =>
    refine ⟨_, _, opening, made, rfl, ?_, ?_⟩
    · rw [same.link, unlinked]
      rfl
    · rw [same.session]
      exact (ite_self _).symm
  | opened _ held _ current opening made =>
    refine ⟨_, _, opening, made, rfl, ?_, current⟩
    rw [held]
    rfl

namespace Client

variable {ℓ δ : Type} (client : Client ℓ δ) (link : Nat × ℓ)
  {before connection : Connection (Nat × ℓ) (Watched δ)}

theorem release_calls (connection : Connection (Nat × ℓ) (Watched δ)) : ∃ outcome,
    (client.watched.release link connection).device.calls =
      connection.device.calls ++ [.shut link.1 outcome] := by
  unfold release
  split
  · rename_i fault device gone
    obtain ⟨outcome, rfl⟩ := Prod.mk.inj gone
    exact ⟨_, rfl⟩
  · rename_i device gone
    obtain ⟨outcome, rfl⟩ := Prod.mk.inj gone
    exact ⟨_, rfl⟩

/-- A link that was opened is held, or given up for want of a session. -/
theorem adopt_connects (handle : ℓ) (unlinked : before.link = none)
    (same : before.SameLink connection) (calls : connection.device.calls =
      before.device.calls ++ [.opened (links before.device.calls)]) :
    Connects client.binding.handshake before
      (client.watched.adopt (links before.device.calls, handle) connection).1
      (client.watched.adopt (links before.device.calls, handle) connection).2 := by
  rcases handshake : client.binding.handshake with _ | _
  · have plain : client.watched.binding.handshake = false := handshake
    rw [client.watched.adopt_of_plain plain]
    exact .opened unlinked rfl rfl same.session (.plain rfl) calls
  · have handshaking : client.watched.binding.handshake = true := handshake
    obtain ⟨registration, registered, asked⟩ :=
      client.exchange_exchanged (links before.device.calls, handle) RegisterSession.mk connection
    have used := client.watched.exchange_sameLink (links before.device.calls, handle)
      RegisterSession.mk connection
    rcases exchanged : client.watched.exchange (links before.device.calls, handle)
      RegisterSession.mk connection with ⟨error | session, opened⟩
    all_goals
      rw [exchanged] at registered asked used
      rw [calls, List.append_assoc] at asked
    · obtain ⟨outcome, gone⟩ := client.release_calls (links before.device.calls, handle) opened
      have still := client.watched.release_sameLink (links before.device.calls, handle) opened
      rw [client.watched.adopt_of_unregistered handshaking exchanged]
      refine .failed unlinked ((same.trans used).trans still)
        (.unregistered rfl registered outcome) ?_
      rw [gone, asked, List.append_assoc]
      rfl
    · rw [client.watched.adopt_of_registered handshaking exchanged]
      exact .opened unlinked rfl rfl rfl (.registered rfl registered) asked

/-- **Opening a link is one of the ways to connect.** -/
theorem connect_connects : Connects client.binding.handshake before
    (client.watched.connect before).1 (client.watched.connect before).2 := by
  rcases held : before.link with _ | link
  · rcases dialled : client.binding.dial client.settings before.device.device with
      ⟨fault | handle, device⟩
    · have refused : client.watched.binding.dial client.watched.settings before.device =
          (.error fault, ⟨before.device.calls ++ [.refused fault], device⟩) := by
        simp only [watched, Binding.watched, dialled]
      rw [client.watched.connect_of_refused held refused]
      exact .failed held ⟨rfl, rfl, rfl⟩ (.refused fault) rfl
    · have opened : client.watched.binding.dial client.watched.settings before.device =
          (.ok (links before.device.calls, handle),
            ⟨before.device.calls ++ [.opened (links before.device.calls)], device⟩) := by
        simp only [watched, Binding.watched, dialled]
      rw [client.watched.connect_of_dialled held opened]
      exact client.adopt_connects handle held ⟨rfl, rfl, rfl⟩ rfl
  · rw [client.watched.connect_of_link held]
    exact .kept held

end Client

/-! ## Giving a link up -/

namespace Client

variable {ℓ δ : Type} (client : Client ℓ δ) (connection : Connection (Nat × ℓ) (Watched δ))

theorem endSession_calls (link : Nat × ℓ) (session : SessionId) : ∃ farewell,
    (client.watched.endSession link session connection).device.calls =
        connection.device.calls ++ farewell ∧
      OnLink link.1 farewell ∧
      ((client.binding.handshake = true → session ≠ 0) →
        Farewell client.binding.handshake link.1 session farewell) := by
  have handshaking : client.watched.binding.handshake = client.binding.handshake := rfl
  rw [client.watched.endSession_device, handshaking]
  split
  · rename_i registered
    obtain ⟨outcome, -, calls⟩ := client.transmit_calls link (unregisterSession session) connection
      (frame_unregisterSession session)
    have ending : Farewell client.binding.handshake link.1 session _ :=
      .registered registered.1 outcome
    exact ⟨_, calls, ending.onLink, fun _ => ending⟩
  · rename_i unregistered
    refine ⟨[], (List.append_nil _).symm, nofun, fun registered => .plain ?_⟩
    rcases handshake : client.binding.handshake with _ | _
    · rfl
    · exact absurd ⟨handshake, registered handshake⟩ unregistered

/-- A link is given up after its session was ended, if there was one. -/
theorem close_calls {connection : Connection (Nat × ℓ) (Watched δ)} {link : Nat × ℓ}
    (held : connection.link = some link) : ∃ farewell outcome,
    (client.watched.close connection).device.calls =
        connection.device.calls ++ (farewell ++ [.shut link.1 outcome]) ∧
      OnLink link.1 (farewell ++ [.shut link.1 outcome]) ∧
      ((client.binding.handshake = true → connection.session ≠ 0) →
        Farewell client.binding.handshake link.1 connection.session farewell) := by
  obtain ⟨farewell, told, onLink, ending⟩ :=
    client.endSession_calls connection.unlinked link connection.session
  obtain ⟨outcome, gone⟩ := client.release_calls link
    (client.watched.endSession link connection.session connection.unlinked)
  refine ⟨farewell, outcome, ?_, onLink.append (OnLink.shut link.1 outcome), ending⟩
  rw [client.watched.close_of_link held]
  show (client.watched.release link _).device.calls = _
  rw [gone, told, List.append_assoc]
  rfl

end Client

/-! ## Attempts -/

section

variable {ℓ δ α ρ : Type} [Request α ρ]

/-- A request as it is sent over a link that was opened for it, in a session if there is one. -/
def Request.boundTo (handshake : Bool) (session : SessionId) (request : α) : α :=
  if handshake then Request.rebind session request else request

/-- Without sessions it does not matter which one there is. -/
theorem Request.boundTo_eq {handshake : Bool} {session other current : SessionId} (request : α)
    (same : current = if handshake then session else other) :
    boundTo handshake current request = boundTo handshake session request := by
  cases handshake <;> simp_all [boundTo]

/-- What one attempt of an execution does to a connection: with its result, and the request as it
was sent. -/
inductive Tries (handshake : Bool) (request : α) (before : Connection (Nat × ℓ) (Watched δ)) :
    Except Error ρ → α → Connection (Nat × ℓ) (Watched δ) → Prop
  | unopened {after : Connection (Nat × ℓ) (Watched δ)} {error : Error} {calls : List Call}
    (unlinked : before.link = none) (same : before.SameLink after)
    (opening : Opening handshake (links before.device.calls) (.error error) calls)
    (made : after.device.calls = before.device.calls ++ calls) :
    Tries handshake request before (.error error) request after
  | opened {after : Connection (Nat × ℓ) (Watched δ)} {session : SessionId} {handle : ℓ}
    {result : Except Error ρ} {calls use : List Call} (unlinked : before.link = none)
    (held : after.link = some (links before.device.calls, handle))
    (current : after.session = if handshake then session else before.session)
    (opening : Opening handshake (links before.device.calls) (.ok session) calls)
    (asked : Exchanged (links before.device.calls) (Request.boundTo handshake session request)
      result use)
    (made : after.device.calls = before.device.calls ++ (calls ++ use)) :
    Tries handshake request before result (Request.boundTo handshake session request) after
  | kept {after : Connection (Nat × ℓ) (Watched δ)} {link : Nat × ℓ} {result : Except Error ρ}
    {use : List Call} (held : before.link = some link) (same : before.SameLink after)
    (asked : Exchanged link.1 request result use)
    (made : after.device.calls = before.device.calls ++ use) :
    Tries handshake request before result request after

/-- An attempt fails for the link or for a frame. -/
theorem Tries.error_cases {handshake : Bool} {request sent : α}
    {before after : Connection (Nat × ℓ) (Watched δ)} {error : Error}
    (tries : Tries handshake request before (.error error : Except Error ρ) sent after) :
    (∃ fault, error = .link fault) ∨ ∃ fault, error = .frame fault := by
  cases tries with
  | unopened _ _ opening _ => exact opening.error_cases
  | opened _ _ _ _ asked _ => exact asked.error_cases
  | kept _ _ asked _ => exact asked.error_cases

namespace Client

variable (client : Client ℓ δ) (request : α) {before opened : Connection ℓ δ}

/-- Over a link that was held before, a request is sent as it is. -/
theorem bound_of_link {link : ℓ} (held : before.link = some link) :
    client.bound request before opened = request := by
  simp [bound, held]

theorem bound_of_none (unlinked : before.link = none) :
    client.bound request before opened =
      Request.boundTo client.binding.handshake opened.session request := by
  simp [bound, Request.boundTo, unlinked]

end Client

/-- **An attempt goes in one of three ways.** -/
theorem Client.attempt_tries (client : Client ℓ δ) (request : α)
    {before after : Connection (Nat × ℓ) (Watched δ)} {result : Except Error ρ} {sent : α}
    (tried : client.watched.attempt request before = (result, sent, after)) :
    Tries client.binding.handshake request before result sent after := by
  have connects : Connects client.binding.handshake before _ _ := client.connect_connects
  rcases connected : client.watched.connect before with ⟨error | ⟨⟩, opened⟩
  all_goals
    rw [connected] at connects
    dsimp only at connects
  · rw [client.watched.attempt_of_error request connected] at tried
    cases tried
    cases connects with
    | failed unlinked same opening made => exact .unopened unlinked same opening made
  · obtain ⟨link, held⟩ := client.watched.link_of_connect connected
    rw [client.watched.attempt_of_ok request connected held] at tried
    cases tried
    obtain ⟨use, asked, used⟩ := client.exchange_exchanged link
      (client.watched.bound request before opened) opened
    have same := client.watched.exchange_sameLink link
      (client.watched.bound request before opened) opened
    cases connects with
    | kept =>
      rw [client.watched.bound_of_link request held] at asked used same ⊢
      exact .kept held same asked used
    | opened unlinked opened_held _ current opening made =>
      obtain rfl := Option.some.inj (opened_held.symm.trans held)
      have bound := (client.watched.bound_of_none request unlinked).trans
        (Request.boundTo_eq request current)
      rw [bound] at asked used same ⊢
      refine .opened unlinked (same.link.trans held) (same.session.trans current) opening asked ?_
      rw [used, made, List.append_assoc]

end

end Enip
