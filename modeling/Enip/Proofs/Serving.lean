import Enip.Proofs.Entries

/-!
# What an execution does on each link

An execution sends its request over one link after the other. On a link that it opened itself the
request goes out in the session of that link, and on the link that was held before it goes out as it
is; nothing happens on the links before those. `Serves` says so for everything that an execution
does from one state of the connection to another, and it holds for the attempts of an execution
one by one and put together (`Client.serves_of_executes`).

Where the execution gets a reply, the last that happens is that the reply is received
(`Client.replied_of_executes`).
-/

namespace Enip

/-! ## One link -/

/-- What comes after the request on a link: nothing, or else the link is given up. -/
inductive Parting (handshake : Bool) (link : Nat) (session : SessionId) : List Call → Prop
  | held : Parting handshake link session []
  | closed {farewell : List Call} (ending : Farewell handshake link session farewell)
    (outcome : Except LinkError Unit) :
    Parting handshake link session (farewell ++ [.shut link outcome])

/-- What is done on a link, in a session, for a request. -/
inductive Asked {α ρ : Type} [Request α ρ] (handshake : Bool) (link : Nat) (session : SessionId)
    (request : α) : List Call → Prop
  | once {result : Except Error ρ} {use rest : List Call}
    (exchanged : Exchanged link request result use)
    (parting : Parting handshake link session rest) :
    Asked handshake link session request (use ++ rest)

/-- What is done on a link that was opened for a request. -/
inductive Served {α ρ : Type} [Request α ρ] (handshake : Bool) (link : Nat) (request : α) :
    List Call → Prop
  | unregistered (handshaking : handshake = true) {error : Error} {registration : List Call}
    (denied : Exchanged link RegisterSession.mk (.error error : Except Error SessionId)
      registration) (outcome : Except LinkError Unit) :
    Served handshake link request (registration ++ [.shut link outcome])
  | asked {session : SessionId} {begun use : List Call}
    (beginning : Beginning handshake link session begun)
    (asked : Asked handshake link session (Request.boundTo handshake session request) use) :
    Served handshake link request (begun ++ use)

section

variable {α ρ : Type} [Request α ρ] {handshake : Bool} {link : Nat} {session : SessionId}
  {request sent : α} {calls : List Call}

theorem Parting.onLink (parting : Parting handshake link session calls) : OnLink link calls := by
  cases parting with
  | held => nofun
  | closed ending outcome => exact ending.onLink.append (OnLink.shut link outcome)

theorem Asked.onLink (asked : Asked handshake link session request calls) : OnLink link calls := by
  obtain ⟨exchanged, parting⟩ := asked
  exact exchanged.onLink.append parting.onLink

theorem Served.onLink (served : Served handshake link request calls) : OnLink link calls := by
  cases served with
  | unregistered _ denied outcome => exact denied.onLink.append (OnLink.shut link outcome)
  | asked beginning asked => exact beginning.onLink.append asked.onLink

/-- It does not matter which session a request came with. -/
theorem Served.of_sent (served : Served handshake link sent calls)
    (same : ∀ session, Request.boundTo handshake session sent =
      Request.boundTo handshake session request) : Served handshake link request calls := by
  cases served with
  | unregistered handshaking denied outcome => exact .unregistered handshaking denied outcome
  | asked beginning asked => exact .asked beginning (same _ ▸ asked)

end

/-! ## From one state of the connection to another -/

/-- Callers are told the truth of the link, and links have the numbers that they were given. -/
structure Connection.Sound {ℓ δ : Type} (handshake : Bool)
    (connection : Connection (Nat × ℓ) (Watched δ)) : Prop where
  honest : connection.Honest handshake
  numbered : Numbered connection.device.calls
  opened : ∀ link, connection.link = some link → link.1 < links connection.device.calls

section

variable {ℓ δ α ρ : Type} [Request α ρ]

/-- A connection is sound after any run. -/
theorem Client.Keeps.sound {client : Client ℓ δ} {callers : Bytes → Prop} {device : δ}
    {connection : Connection (Nat × ℓ) (Watched δ)}
    (kept : client.Keeps callers (.start (.fresh device)) connection) :
    connection.Sound client.binding.handshake := by
  have lives := Lives.of_entries kept.entries
  refine ⟨kept.honest, lives.opened, fun link held => ?_⟩
  exact lives.held _ (congrArg Account.held (Connection.account_of_link held))

/-- A closed connection is sound if its links were numbered. -/
theorem Connection.Sound.closed {handshake : Bool} {connection : Connection (Nat × ℓ) (Watched δ)}
    (unlinked : connection.link = none) (shut : connection.isOpen = false)
    (session : connection.session = 0) (numbered : Numbered connection.device.calls) :
    connection.Sound handshake := by
  refine ⟨⟨?_, ?_⟩, numbered, fun link held => ?_⟩
  · rw [shut, unlinked]
    rfl
  · rw [session, unlinked]
    simp
  · rw [unlinked] at held
    cases held

/-- What an execution does on all links, from one state of the connection to another. -/
structure Serves (handshake : Bool) (request : α)
    (before after : Connection (Nat × ℓ) (Watched δ)) : Prop where
  calls : before.device.calls <+: after.device.calls
  numbered : Numbered after.device.calls
  grown : links before.device.calls ≤ links after.device.calls
  /-- On the links before, nothing. -/
  others : ∀ link < links before.device.calls, (∀ handle, before.link ≠ some (link, handle)) →
    callsOn link after.device.calls = callsOn link before.device.calls
  /-- On the link that was held, the request is sent as it is. -/
  held : ∀ link, before.link = some link → ∃ mine,
    callsOn link.1 after.device.calls = callsOn link.1 before.device.calls ++ mine ∧
      Asked handshake link.1 before.session request mine
  /-- On the links that were opened, it is sent in their sessions. -/
  served : ∀ link, links before.device.calls ≤ link → link < links after.device.calls →
    ∃ mine, callsOn link after.device.calls = .opened link :: mine ∧
      Served handshake link request mine

namespace Serves

variable {handshake : Bool} {request sent : α}
  {before middle after : Connection (Nat × ℓ) (Watched δ)} {mine : List Call}

/-- No link could be opened. -/
theorem refused {fault : LinkError} (sound : before.Sound handshake)
    (unlinked : before.link = none)
    (made : after.device.calls = before.device.calls ++ [.refused fault]) :
    Serves handshake request before after := by
  have count : links after.device.calls = links before.device.calls := by
    rw [made, links_append]
    rfl
  refine ⟨⟨_, made.symm⟩, made ▸ sound.numbered.refused fault, Nat.le_of_eq count.symm, ?_, ?_, ?_⟩
  · intro link _ _
    rw [made, callsOn_append]
    exact List.append_nil _
  · intro link held
    rw [unlinked] at held
    cases held
  · intro link new opened
    rw [count] at opened
    exact absurd opened (Nat.not_lt_of_le new)

/-- A link was opened, and served the request. -/
theorem opened (sound : before.Sound handshake) (unlinked : before.link = none)
    (served : Served handshake (links before.device.calls) request mine)
    (made : after.device.calls =
      before.device.calls ++ .opened (links before.device.calls) :: mine) :
    Serves handshake request before after := by
  have count : links after.device.calls = links before.device.calls + 1 :=
    made ▸ served.onLink.links_opened
  refine ⟨⟨_, made.symm⟩, made ▸ sound.numbered.opened served.onLink, ?_, ?_, ?_, ?_⟩
  · rw [count]
    exact Nat.le_succ _
  · intro link old _
    rw [made]
    exact served.onLink.callsOn_opened (Nat.ne_of_lt old)
  · intro link held
    rw [unlinked] at held
    cases held
  · intro link new opened
    rw [count] at opened
    obtain rfl := Nat.le_antisymm (Nat.le_of_lt_succ opened) new
    refine ⟨mine, ?_, served⟩
    rw [made]
    exact sound.numbered.callsOn_opened served.onLink

/-- The link that was held served the request. -/
theorem kept {link : Nat × ℓ} (sound : before.Sound handshake) (held : before.link = some link)
    (asked : Asked handshake link.1 before.session request mine)
    (made : after.device.calls = before.device.calls ++ mine) :
    Serves handshake request before after := by
  have count : links after.device.calls = links before.device.calls := by
    rw [made, links_append, asked.onLink.links_eq, Nat.add_zero]
  refine ⟨⟨_, made.symm⟩, made ▸ sound.numbered.append (sound.opened link held) asked.onLink,
    Nat.le_of_eq count.symm, ?_, ?_, ?_⟩
  · intro other _ unheld
    have different : other ≠ link.1 := by
      rintro rfl
      exact unheld link.2 held
    rw [made, callsOn_append, asked.onLink.callsOn_of_ne different, List.append_nil]
  · intro other same
    obtain rfl := Option.some.inj (held.symm.trans same)
    refine ⟨mine, ?_, asked⟩
    rw [made, callsOn_append, asked.onLink.callsOn_self]
  · intro other new opened
    rw [count] at opened
    exact absurd opened (Nat.not_lt_of_le new)

/-- What is done is told by the calls. -/
theorem of_calls (serves : Serves handshake request before middle)
    (same : after.device.calls = middle.device.calls) : Serves handshake request before after := by
  refine ⟨?_, ?_, ?_, ?_, ?_, ?_⟩
  all_goals rw [same]
  · exact serves.calls
  · exact serves.numbered
  · exact serves.grown
  · exact serves.others
  · exact serves.held
  · exact serves.served

/-- Once the link is given up, the request goes out over others. -/
theorem trans (sound : before.Sound handshake)
    (first : Serves handshake request before middle) (unlinked : middle.link = none)
    (later : Serves handshake sent middle after)
    (same : ∀ session, Request.boundTo handshake session sent =
      Request.boundTo handshake session request) : Serves handshake request before after := by
  have still (link : Nat) (old : link < links middle.device.calls) :
      callsOn link after.device.calls = callsOn link middle.device.calls := by
    refine later.others link old fun handle held => ?_
    rw [unlinked] at held
    cases held
  refine ⟨first.calls.trans later.calls, later.numbered, Nat.le_trans first.grown later.grown,
    ?_, ?_, ?_⟩
  · intro link old unheld
    rw [still link (Nat.lt_of_lt_of_le old first.grown)]
    exact first.others link old unheld
  · intro link held
    rw [still link.1 (Nat.lt_of_lt_of_le (sound.opened link held) first.grown)]
    exact first.held link held
  · intro link new opened
    by_cases old : link < links middle.device.calls
    · rw [still link old]
      exact first.served link new old
    · obtain ⟨mine, own, served⟩ := later.served link (Nat.le_of_not_lt old) opened
      exact ⟨mine, own, served.of_sent same⟩

end Serves

/-! ## Attempts -/

/-- What comes after an attempt: nothing, or else the link is given up, if there is one. -/
structure Parts (handshake : Bool) (connection : Connection (Nat × ℓ) (Watched δ))
    (calls : List Call) : Prop where
  unlinked : connection.link = none → calls = []
  linked : ∀ link, connection.link = some link →
    Parting handshake link.1 connection.session calls

theorem Parts.nothing {handshake : Bool} (connection : Connection (Nat × ℓ) (Watched δ)) :
    Parts handshake connection [] :=
  ⟨fun _ => rfl, fun _ _ => .held⟩

/-- An attempt, and what comes after it. -/
theorem Tries.serves {handshake : Bool} {request sent : α} {result : Except Error ρ}
    {before after final : Connection (Nat × ℓ) (Watched δ)} {rest : List Call}
    (tries : Tries handshake request before result sent after)
    (sound : before.Sound handshake) (parts : Parts handshake after rest)
    (made : final.device.calls = after.device.calls ++ rest) :
    Serves handshake request before final := by
  cases tries with
  | unopened unlinked same opening made' =>
    rw [parts.unlinked (same.link.trans unlinked), List.append_nil, made'] at made
    cases opening with
    | refused fault => exact .refused sound unlinked made
    | unregistered handshaking denied outcome =>
      exact .opened sound unlinked (.unregistered handshaking denied outcome) made
  | opened unlinked held current opening asked made' =>
    have parting := parts.linked _ held
    rw [current, sound.honest.session_eq_zero unlinked, opening.session_eq] at parting
    obtain ⟨begun, rfl, beginning⟩ := opening.beginning
    refine .opened sound unlinked (.asked beginning (.once asked parting)) ?_
    rw [made, made', List.append_assoc, List.cons_append, List.cons_append, List.append_assoc]
  | kept held same asked made' =>
    have parting := parts.linked _ (same.link.trans held)
    rw [same.session] at parting
    refine .kept sound held (.once asked parting) ?_
    rw [made, made', List.append_assoc]

namespace Client

variable {client : Client ℓ δ} {before after : Connection (Nat × ℓ) (Watched δ)}

theorem close_parts (honest : before.Honest client.binding.handshake) :
    ∃ rest, Parts client.binding.handshake before rest ∧
      (client.watched.close before).device.calls = before.device.calls ++ rest := by
  rcases held : before.link with _ | link
  · rw [client.watched.close_of_none held]
    exact ⟨[], .nothing before, (List.append_nil _).symm⟩
  · obtain ⟨farewell, outcome, made, -, ending⟩ := client.close_calls held
    have registered (handshake : client.binding.handshake = true) : before.session ≠ 0 :=
      honest.session.2 ⟨handshake, by rw [held]; rfl⟩
    refine ⟨_, ⟨?_, ?_⟩, made⟩
    · intro unlinked
      rw [held] at unlinked
      cases unlinked
    · intro other same
      obtain rfl := Option.some.inj (held.symm.trans same)
      exact .closed (ending registered) outcome

theorem dropOversized_parts (result : Except Error ρ)
    (honest : before.Honest client.binding.handshake) :
    ∃ rest, Parts client.binding.handshake before rest ∧
      (client.watched.dropOversized (result, before)).2.device.calls =
        before.device.calls ++ rest := by
  by_cases oversized : Oversized result
  · obtain ⟨event, dropped⟩ := client.watched.dropOversized_of_oversized before oversized
    rw [dropped]
    have noted : (before.note event).Honest client.binding.handshake :=
      ⟨honest.isOpen, honest.session⟩
    obtain ⟨rest, parts, made⟩ := close_parts noted
    exact ⟨rest, ⟨parts.unlinked, parts.linked⟩, made⟩
  · rw [client.watched.dropOversized_of_not_oversized before oversized]
    exact ⟨[], .nothing before, (List.append_nil _).symm⟩

end Client

/-! ## Executions -/

/-- To move a request from session to session is to move it to the last of them. -/
def Movable (α : Type) {ρ : Type} [Request α ρ] : Prop :=
  ∀ (first second : SessionId) (request : α),
    Request.rebind second (Request.rebind first request) = Request.rebind second request

theorem Movable.boundTo_boundTo (movable : Movable α) (handshake : Bool)
    (first second : SessionId) (request : α) :
    Request.boundTo handshake second (Request.boundTo handshake first request) =
      Request.boundTo handshake second request := by
  cases handshake with
  | false => rfl
  | true => exact movable first second request

/-- A request that was sent is as good as the one that was given. -/
theorem Tries.boundTo_sent {handshake : Bool} {request sent : α} {result : Except Error ρ}
    {before after : Connection (Nat × ℓ) (Watched δ)} (movable : Movable α)
    (tries : Tries handshake request before result sent after) (session : SessionId) :
    Request.boundTo handshake session sent = Request.boundTo handshake session request := by
  cases tries with
  | unopened _ _ _ _ => rfl
  | opened _ _ _ _ _ _ => exact movable.boundTo_boundTo handshake _ session request
  | kept _ _ _ _ => rfl

namespace Client

variable {client : Client ℓ δ} {request sent : α} {number more : Nat} {outcome : Outcome ρ}
  {before after : Connection (Nat × ℓ) (Watched δ)}

section

variable {result : Except Error ρ} (sound : before.Sound client.binding.handshake)

include sound

theorem attempt_honest (tried : client.watched.attempt request before = (result, sent, after)) :
    after.Honest client.binding.handshake :=
  (attempt_keeps client request sound.honest (called_true request) tried).1.honest

/-- An attempt that fails for the link, and the link is given up. -/
theorem serves_of_closed (tried : client.watched.attempt request before = (result, sent, after))
    (event : Event) :
    Serves client.binding.handshake request before (client.watched.close (after.note event)) := by
  have honest := attempt_honest sound tried
  have noted : (after.note event).Honest client.binding.handshake :=
    ⟨honest.isOpen, honest.session⟩
  obtain ⟨rest, parts, made⟩ := close_parts noted
  exact (client.attempt_tries request tried).serves sound ⟨parts.unlinked, parts.linked⟩ made

/-- Any other. -/
theorem serves_of_dropped (tried : client.watched.attempt request before = (result, sent, after)) :
    Serves client.binding.handshake request before
      (client.watched.dropOversized (result, after)).2 := by
  obtain ⟨rest, parts, made⟩ := dropOversized_parts result (attempt_honest sound tried)
  exact (client.attempt_tries request tried).serves sound parts made

end

/-- **What an execution does on each link.** -/
theorem serves_of_executes (movable : Movable α)
    (executes : Executes client.watched number more request before outcome sent after)
    (sound : before.Sound client.binding.handshake) :
    Serves client.binding.handshake request before after := by
  induction executes with
  | settled tried _ => exact serves_of_dropped sound tried
  | exhausted tried => exact serves_of_closed sound tried _
  | @aborted number _ _ _ _ _ _ fault _ tried closing _ =>
    have closed := serves_of_closed sound tried (.attemptFailed number fault)
    rw [← closing] at closed
    exact closed.of_calls rfl
  | @retried number _ request _ _ _ after closed _ fault wait _ tried closing _ _ ih =>
    have first := serves_of_closed sound tried (.attemptFailed number fault)
    have same := client.watched.close_sameLink (after.note (.attemptFailed number fault))
    rw [← closing] at first same
    have waited : Serves client.binding.handshake request _
        ((closed.draw.note (.retrying wait fault)).sleep wait) := first.of_calls rfl
    have tries := client.attempt_tries request tried
    have later := ih (.closed same.link same.isOpen same.session first.numbered)
    exact waited.trans sound same.link later (tries.boundTo_sent movable)

/-- **Where an execution gets a reply**, the last that happens is that it is received: over the link
that was held before, or else over a new one and in its session. -/
theorem replied_of_executes (movable : Movable α)
    (executes : Executes client.watched number more request before outcome sent after)
    (sound : before.Sound client.binding.handshake) {reply : ρ} (done : outcome = .done reply) :
    ∃ link frame receptions earlier, after.link = some link ∧ Request.frame sent = .ok frame ∧
      after.device.calls =
        earlier ++ .sent link.1 frame (.ok ()) :: receptions.map (.received link.1) ∧
      Request.decode sent (brought receptions) = .ok reply ∧
      ((before.link = some link ∧ sent = request ∧ after.session = before.session ∧
          links after.device.calls = links before.device.calls) ∨
        (links before.device.calls ≤ link.1 ∧
          sent = Request.boundTo client.binding.handshake after.session request)) := by
  induction executes with
  | @settled _ _ request sent before after result tried _ =>
    rcases result with error | found
    · cases done
    · cases done
      have tries := client.attempt_tries request tried
      rw [client.watched.dropOversized_of_not_oversized after (not_oversized_ok reply)]
      cases tries with
      | opened unlinked held current opening asked made =>
        obtain ⟨frame, receptions, rfl, written, decoded⟩ := asked.ok_cases
        rw [← List.append_assoc] at made
        exact ⟨_, frame, receptions, _, held, written, made, decoded,
          .inr ⟨Nat.le_refl _, (Request.boundTo_eq request current).symm⟩⟩
      | kept held same asked made =>
        have count : links after.device.calls = links before.device.calls := by
          rw [made, links_append, asked.onLink.links_eq, Nat.add_zero]
        obtain ⟨frame, receptions, rfl, written, decoded⟩ := asked.ok_cases
        exact ⟨_, frame, receptions, _, same.link.trans held, written, made, decoded,
          .inl ⟨held, rfl, same.session, count⟩⟩
  | exhausted _ => cases done
  | aborted _ _ _ => cases done
  | @retried number _ request _ _ _ after closed _ fault _ _ tried closing _ _ ih =>
    have first := serves_of_closed sound tried (.attemptFailed number fault)
    have same := client.watched.close_sameLink (after.note (.attemptFailed number fault))
    rw [← closing] at first same
    obtain ⟨link, frame, receptions, earlier, held, written, made, decoded, origin⟩ :=
      ih (.closed same.link same.isOpen same.session first.numbered) done
    refine ⟨link, frame, receptions, earlier, held, written, made, decoded, .inr ?_⟩
    rcases origin with ⟨still, -⟩ | ⟨new, bound⟩
    · have kept : closed.link = some link := still
      cases kept.symm.trans same.link
    · exact ⟨Nat.le_trans first.grown new,
        bound.trans ((client.attempt_tries request tried).boundTo_sent movable _)⟩

end Client

end

end Enip
