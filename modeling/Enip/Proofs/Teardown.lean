import Enip.Proofs.AnswerAlike
import Enip.Proofs.Lifecycle
import Enip.Proofs.Reassembly
import Enip.Proofs.Retrying

/-!
# What comes of giving links up

When a link is given up its session is ended and it is shut down, and either may fail: after a
fault of the link that is being reported, for want of a session, after a reply too large for the
buffer, or at the very end. None of these failures shows. Two devices that answer alike but for this
(`AnswerAlike`) are asked the same by a connection, and its callers get the same answers and are
told the same (`Client.service_alike`), even if each operation depends on the answers to those
before it.

The two runs are kept `InStep`: the links held have the same number and session, and the same was
asked so far. One lemma for each step says that connections in step give the same result and are in
step after it. A step may send a frame that ends a session on behalf of its caller, and that the
devices answer alike only because the link is not given up right after it; this is seen from what
the step leads to (`Client.Leads`).
-/

namespace Enip

/-! ## What follows on a link that is held -/

/-- What comes next in a transcript is one thing. -/
theorem call_eq_of_begins {transcript calls more more' : List Call} {call call' : Call}
    (begins : calls ++ call :: more <+: transcript)
    (begins' : calls ++ call' :: more' <+: transcript) : call = call' := by
  obtain ⟨rest, all⟩ := begins
  obtain ⟨rest', all'⟩ := begins'
  rw [List.append_assoc] at all all'
  exact (List.cons.inj (List.append_cancel_left (all.trans all'.symm))).1

/-- A link that has a session is not shut down before its session is ended. -/
theorem Entries.not_shut {callers : Bytes → Prop} {link : Nat} {session : SessionId}
    {calls : List Call} {account : Account}
    (entries : Entries true callers ⟨some (link, session), calls⟩ account)
    (gone : Except LinkError Unit) : ¬calls ++ [.shut link gone] <+: account.calls := by
  generalize held : (⟨some (link, session), calls⟩ : Account) = before at entries
  -- Entries are taken from the first on, for the first one that makes a call decides.
  induction entries using Relation.ReflTransGen.head_induction_on with
  | refl =>
    subst held
    intro begins
    exact absurd begins.length_le (by simp)
  | head entry rest ih =>
    intro begins
    have grown := Entries.calls_grow rest
    cases entry with
    | refused _ | unregistered _ _ _ | opened _ => cases held
    | @used _ _ _ use inUse =>
      cases held
      rcases use with _ | ⟨call, use⟩
      · exact ih (by rw [List.append_nil]) begins
      · obtain rfl := call_eq_of_begins begins grown
        cases inUse _ List.mem_cons_self
    | closed ending outcome =>
      cases held
      rcases ending with plain | _
      · cases plain
      · cases call_eq_of_begins begins grown

namespace Client

variable {ℓ δ α ρ : Type} [Request α ρ] (client : Client ℓ δ)

/-- From the connection as it is there are entries that lead to these calls. -/
def Leads (connection : Connection (Nat × ℓ) (Watched δ)) (transcript : List Call) : Prop :=
  ∃ held, Entries client.binding.handshake (fun _ => True) connection.account ⟨held, transcript⟩

namespace Leads

variable {client} {before after : Connection (Nat × ℓ) (Watched δ)} {transcript : List Call}

theorem of_keeps (leads : client.Leads after transcript)
    (kept : client.Keeps (fun _ => True) before after) : client.Leads before transcript := by
  obtain ⟨held, entries⟩ := leads
  exact ⟨held, kept.entries.trans entries⟩

theorem begins (leads : client.Leads after transcript) : after.device.calls <+: transcript := by
  obtain ⟨held, entries⟩ := leads
  exact entries.calls_grow

theorem of_exchange {link : Nat × ℓ} {request : α}
    (leads : client.Leads (client.watched.exchange link request before).2 transcript)
    (held : before.link = some link) (honest : before.Honest client.binding.handshake) :
    client.Leads (client.watched.transmit link request before).2 transcript := by
  have same := client.watched.transmit_sameLink link request before
  rcases sending : client.watched.transmit link request before with ⟨error | ⟨⟩, waiting⟩
  · rw [client.watched.exchange_of_unsent _ _ _ sending] at leads
    exact leads
  · rw [sending] at same
    rw [client.watched.exchange_of_sent _ _ _ sending] at leads
    exact leads.of_keeps ((client.receive_uses link request waiting).keeps (same.link.trans held)
      (honest.of_sameLink same))

theorem of_dropOversized {result : Except Error ρ}
    (leads : client.Leads (client.watched.dropOversized (result, after)).2 transcript)
    (honest : after.Honest client.binding.handshake) : client.Leads after transcript :=
  leads.of_keeps (client.dropOversized_keeps (.refl honest))

theorem of_attempt {request : α}
    (leads : client.Leads (client.watched.attempt request before).2.2 transcript)
    (honest : before.Honest client.binding.handshake) :
    client.Leads (client.watched.connect before).2 transcript := by
  have opening : client.Keeps (fun _ => True) before (client.watched.connect before).2 :=
    client.connect_keeps honest
  rcases connected : client.watched.connect before with ⟨error | ⟨⟩, opened⟩
  all_goals rw [connected] at opening
  · rw [client.watched.attempt_of_error request connected] at leads
    exact leads
  · obtain ⟨link, held⟩ := client.watched.link_of_connect connected
    rw [client.watched.attempt_of_ok request connected held] at leads
    exact leads.of_keeps ((client.exchange_uses link _ opened fun _ _ => trivial).keeps held
      opening.honest)

theorem of_executeFrom {number more : Nat} {request : α}
    (leads : client.Leads (client.watched.executeFrom number more request before).2.2 transcript)
    (honest : before.Honest client.binding.handshake) :
    client.Leads (client.watched.attempt request before).2.2 transcript := by
  have executes : Executes client.watched number more request before _ _ _ :=
    client.watched.executes number more request before
  rcases run : client.watched.executeFrom number more request before with ⟨outcome, last, final⟩
  rw [run] at executes leads
  dsimp only at executes leads
  rcases tried : client.watched.attempt request before with ⟨result, sent, after⟩
  have honest : after.Honest client.binding.handshake :=
    (client.attempt_keeps request honest (called_true request) tried).1.honest
  have shut (event : Event) :
      client.Keeps (fun _ => True) after (client.watched.close (after.note event)) :=
    (Keeps.refl honest).close client event
  cases executes with
  | settled tried' _ =>
    cases tried.symm.trans tried'
    exact leads.of_dropOversized honest
  | exhausted tried' =>
    cases tried.symm.trans tried'
    exact leads.of_keeps (shut _)
  | aborted tried' closing _ =>
    cases tried.symm.trans tried'
    subst closing
    exact leads.of_keeps (shut _).draw
  | @retried _ _ _ _ _ _ _ closed _ fault wait _ tried' closing _ rest =>
    cases tried.symm.trans tried'
    have closes := shut (.attemptFailed number fault)
    rw [← closing] at closes
    have waiting := (closes.draw.note (.retrying wait fault)).sleep wait
    exact leads.of_keeps
      (waiting.trans (client.keeps_of_executes sent waiting.honest (called_true sent) rest))

/-- What was sent last over a link that is held is not the end of its session. -/
theorem spared (leads : client.Leads after transcript) {link : Nat × ℓ}
    (held : after.link = some link) {calls : List Call} {frame : Bytes}
    {outcome : Except LinkError Unit}
    (sent : after.device.calls = calls ++ [.sent link.1 frame outcome]) :
    Spared client.binding.handshake transcript calls (.sent link.1 frame outcome) := by
  intro later split teardown
  rcases later with _ | ⟨call, later⟩
  · cases teardown
  · cases call with
    | opened _ | refused _ | sent _ _ _ | received _ _ => cases teardown
    | shut _ gone =>
      obtain ⟨handshaking, rfl, -⟩ := Call.teardown_sent_iff.1 teardown
      obtain ⟨final, entries⟩ := leads
      rw [handshaking, Connection.account_of_link held, sent] at entries
      refine entries.not_shut gone ⟨later, ?_⟩
      rw [split]
      simp

end Leads

/-! ## Connections in step -/

/-- Two connections hold links with the same number and session, or none, and have made the same
requests of their devices. -/
structure InStep (connection connection' : Connection (Nat × ℓ) (Watched δ)) : Prop where
  link : connection.link.map Prod.fst = connection'.link.map Prod.fst
  session : connection.session = connection'.session
  drawn : connection.drawn = connection'.drawn
  /-- The same was asked of the devices. -/
  calls : Together connection.device.calls connection'.device.calls
  honest : connection.Honest client.binding.handshake
  honest' : connection'.Honest client.binding.handshake

variable {client} {connection connection' : Connection (Nat × ℓ) (Watched δ)}

namespace InStep

variable (inStep : client.InStep connection connection')

include inStep

/-- Either both connections hold a link or neither does. -/
theorem link_cases :
    (connection.link = none ∧ connection'.link = none) ∨
      ∃ number handle handle', connection.link = some (number, handle) ∧
        connection'.link = some (number, handle') := by
  have same := inStep.link
  rcases held : connection.link with _ | ⟨number, handle⟩ <;>
    rcases held' : connection'.link with _ | ⟨number', handle'⟩ <;>
    rw [held, held'] at same <;> cases same
  · exact .inl ⟨rfl, rfl⟩
  · exact .inr ⟨number, handle, handle', rfl, rfl⟩

theorem isOpen : connection.isOpen = connection'.isOpen := by
  have same := congrArg Option.isSome inStep.link
  rw [Option.isSome_map, Option.isSome_map] at same
  rw [inStep.honest.isOpen, inStep.honest'.isOpen, same]

theorem note (event event' : Event) :
    client.InStep (connection.note event) (connection'.note event') :=
  ⟨inStep.link, inStep.session, inStep.drawn, inStep.calls,
    ⟨inStep.honest.isOpen, inStep.honest.session⟩, ⟨inStep.honest'.isOpen, inStep.honest'.session⟩⟩

theorem draw : client.InStep connection.draw connection'.draw :=
  ⟨inStep.link, inStep.session, congrArg (· + 1) inStep.drawn, inStep.calls,
    ⟨inStep.honest.isOpen, inStep.honest.session⟩, ⟨inStep.honest'.isOpen, inStep.honest'.session⟩⟩

theorem sleep (wait wait' : Duration) :
    client.InStep (connection.sleep wait) (connection'.sleep wait') :=
  ⟨inStep.link, inStep.session, inStep.drawn, inStep.calls,
    ⟨inStep.honest.isOpen, inStep.honest.session⟩, ⟨inStep.honest'.isOpen, inStep.honest'.session⟩⟩

/-- Calls on links that stay what they are keep connections in step if they ask the same. -/
theorem go {after after' : Connection (Nat × ℓ) (Watched δ)} {mine mine' : List Call}
    (same : connection.SameLink after) (same' : connection'.SameLink after')
    (unwaited : connection.Unwaited after) (unwaited' : connection'.Unwaited after')
    (made : after.device.calls = connection.device.calls ++ mine)
    (made' : after'.device.calls = connection'.device.calls ++ mine')
    (together : Together mine mine') : client.InStep after after' := by
  refine ⟨?_, ?_, ?_, ?_, inStep.honest.of_sameLink same, inStep.honest'.of_sameLink same'⟩
  · rw [same.link, same'.link, inStep.link]
  · rw [same.session, same'.session, inStep.session]
  · rw [unwaited.drawn, unwaited'.drawn, inStep.drawn]
  · rw [made, made']
    exact inStep.calls.append together

/-- A request goes out in the same session. -/
theorem bound_eq (request : α) {opened opened' : Connection (Nat × ℓ) (Watched δ)}
    (kept : client.InStep opened opened') :
    client.watched.bound request connection opened =
      client.watched.bound request connection' opened' := by
  unfold bound
  rw [kept.session]
  rcases inStep.link_cases with ⟨held, held'⟩ | ⟨_, _, _, held, held'⟩ <;>
    simp only [held, held', reduceCtorEq]

end InStep

/-! ## Giving up -/

/-- However the devices take it that links are given up, connections stay in step. -/
theorem close_inStep (inStep : client.InStep connection connection') :
    client.InStep (client.watched.close connection) (client.watched.close connection') := by
  have kept : client.Keeps (fun _ => True) connection _ := client.close_keeps inStep.honest
  have kept' : client.Keeps (fun _ => True) connection' _ := client.close_keeps inStep.honest'
  have same := client.watched.close_sameLink connection
  have same' := client.watched.close_sameLink connection'
  refine ⟨?_, ?_, ?_, ?_, kept.honest, kept'.honest⟩
  · rw [same.link, same'.link]
    rfl
  · rw [same.session, same'.session]
    rfl
  · rw [(client.watched.close_unwaited connection).drawn,
      (client.watched.close_unwaited connection').drawn, inStep.drawn]
  · rcases inStep.link_cases with ⟨none, none'⟩ | ⟨number, handle, handle', held, held'⟩
    · rw [client.watched.close_of_none none, client.watched.close_of_none none']
      exact inStep.calls
    · obtain ⟨farewell, outcome, made, -, ending⟩ := client.close_calls held
      obtain ⟨farewell', outcome', made', -, ending'⟩ := client.close_calls held'
      have registered (handshake : client.binding.handshake = true) : connection.session ≠ 0 :=
        inStep.honest.session_iff.2 ⟨handshake, _, held⟩
      have farewells : Together farewell farewell' :=
        (ending registered).together (inStep.session ▸ ending' (inStep.session ▸ registered))
      rw [made, made']
      exact inStep.calls.append (farewells.append ⟨rfl, rfl⟩)

theorem dropOversized_inStep {first second : Except Error ρ × Connection (Nat × ℓ) (Watched δ)}
    (agree : Agree client.InStep first second) :
    Agree client.InStep (client.watched.dropOversized first)
      (client.watched.dropOversized second) := by
  obtain ⟨result, left, right, rfl, rfl, inStep⟩ := agree.pairs
  by_cases oversized : Oversized result
  · obtain ⟨event, dropped⟩ := client.watched.dropOversized_of_oversized left oversized
    obtain ⟨event', dropped'⟩ := client.watched.dropOversized_of_oversized right oversized
    rw [dropped, dropped']
    exact ⟨rfl, close_inStep (inStep.note event event')⟩
  · rw [client.watched.dropOversized_of_not_oversized left oversized,
      client.watched.dropOversized_of_not_oversized right oversized]
    exact ⟨rfl, inStep⟩

/-! ## Frames -/

section

variable {transcript transcript' : List Call}
  (alike : AnswerAlike client.binding.handshake transcript transcript')

include alike

theorem transmit_inStep {number : Nat} {handle handle' : ℓ} (request : α)
    (inStep : client.InStep connection connection')
    (held : connection.link = some (number, handle))
    (held' : connection'.link = some (number, handle'))
    (leads : client.Leads (client.watched.transmit (number, handle) request connection).2
      transcript)
    (leads' : client.Leads (client.watched.transmit (number, handle') request connection').2
      transcript') :
    Agree client.InStep (client.watched.transmit (number, handle) request connection)
      (client.watched.transmit (number, handle') request connection') := by
  have same := client.watched.transmit_sameLink (number, handle) request connection
  have same' := client.watched.transmit_sameLink (number, handle') request connection'
  have unwaited := client.watched.transmit_unwaited (number, handle) request connection
  have unwaited' := client.watched.transmit_unwaited (number, handle') request connection'
  rcases written : Request.frame request with fault | frame
  · obtain ⟨failed, device⟩ :=
      client.watched.transmit_of_unwritten (number, handle) request connection written
    obtain ⟨failed', device'⟩ :=
      client.watched.transmit_of_unwritten (number, handle') request connection' written
    refine ⟨failed.trans failed'.symm,
      inStep.go same same' unwaited unwaited' ?_ ?_ (.refl [])⟩
    · rw [device, List.append_nil]
    · rw [device', List.append_nil]
  · obtain ⟨outcome, sent, made⟩ :=
      client.transmit_calls (number, handle) request connection written
    obtain ⟨outcome', sent', made'⟩ :=
      client.transmit_calls (number, handle') request connection' written
    have told : Call.sent number frame outcome = .sent number frame outcome' :=
      alike.same inStep.calls.asks (made ▸ leads.begins) (made' ▸ leads'.begins) rfl
        (leads.spared (same.link.trans held) made) (leads'.spared (same'.link.trans held') made')
    cases told
    exact ⟨sent.trans sent'.symm, inStep.go same same' unwaited unwaited' made made' (.refl _)⟩

theorem receive_inStep {number : Nat} {handle handle' : ℓ} (request : α)
    (inStep : client.InStep connection connection')
    (begins : (client.watched.receive (number, handle) request connection).2.device.calls <+:
      transcript)
    (begins' : (client.watched.receive (number, handle') request connection').2.device.calls <+:
      transcript') :
    Agree client.InStep (client.watched.receive (number, handle) request connection)
      (client.watched.receive (number, handle') request connection') := by
  obtain ⟨receptions, heard, made⟩ := client.receive_heard (number, handle) request connection
  obtain ⟨receptions', heard', made'⟩ := client.receive_heard (number, handle') request connection'
  rw [made] at begins
  rw [made'] at begins'
  obtain ⟨result, rfl⟩ := heard.determined alike heard' inStep.calls.asks begins begins'
  exact ⟨result, inStep.go (client.watched.receive_sameLink ..) (client.watched.receive_sameLink ..)
    (client.watched.receive_unwaited ..) (client.watched.receive_unwaited ..) made made' (.refl _)⟩

theorem exchange_inStep {number : Nat} {handle handle' : ℓ} (request : α)
    (inStep : client.InStep connection connection')
    (held : connection.link = some (number, handle))
    (held' : connection'.link = some (number, handle'))
    (leads : client.Leads (client.watched.exchange (number, handle) request connection).2
      transcript)
    (leads' : client.Leads (client.watched.exchange (number, handle') request connection').2
      transcript') :
    Agree client.InStep (client.watched.exchange (number, handle) request connection)
      (client.watched.exchange (number, handle') request connection') := by
  have sent := transmit_inStep alike request inStep held held'
    (leads.of_exchange held inStep.honest) (leads'.of_exchange held' inStep.honest')
  obtain ⟨result, waiting, waiting', sending, sending', kept⟩ := sent.pairs
  rcases result with error | ⟨⟩
  · rw [client.watched.exchange_of_unsent _ _ _ sending,
      client.watched.exchange_of_unsent _ _ _ sending']
    exact ⟨rfl, kept⟩
  · rw [client.watched.exchange_of_sent _ _ _ sending] at leads ⊢
    rw [client.watched.exchange_of_sent _ _ _ sending'] at leads' ⊢
    exact receive_inStep alike request kept leads.begins leads'.begins

/-! ## Opening a link -/

theorem connect_inStep (inStep : client.InStep connection connection')
    (begins : (client.watched.connect connection).2.device.calls <+: transcript)
    (begins' : (client.watched.connect connection').2.device.calls <+: transcript') :
    Agree client.InStep (client.watched.connect connection)
      (client.watched.connect connection') := by
  have kept : client.Keeps (fun _ => True) connection _ := client.connect_keeps inStep.honest
  have kept' : client.Keeps (fun _ => True) connection' _ := client.connect_keeps inStep.honest'
  have unwaited := client.watched.connect_unwaited connection
  have unwaited' := client.watched.connect_unwaited connection'
  rcases inStep.link_cases with ⟨none, none'⟩ | ⟨number, handle, handle', held, held'⟩
  · obtain ⟨opened, calls, opening, made, result, link, session⟩ :=
      client.connect_connects.of_unlinked none
    obtain ⟨opened', calls', opening', made', result', link', session'⟩ :=
      client.connect_connects.of_unlinked none'
    rw [made] at begins
    rw [made'] at begins'
    rw [← inStep.calls.links] at opening'
    obtain ⟨rfl, together⟩ := opening.determined alike opening' inStep.calls.asks begins begins'
    refine ⟨result.trans result'.symm, ?_, ?_, ?_, ?_, kept.honest, kept'.honest⟩
    · rw [link, link', inStep.calls.links]
    · rw [session, session', inStep.session]
    · rw [unwaited.drawn, unwaited'.drawn, inStep.drawn]
    · rw [made, made']
      exact inStep.calls.append together
  · rw [client.watched.connect_of_link held, client.watched.connect_of_link held']
    exact ⟨rfl, inStep⟩

/-! ## Operations -/

theorem write_inStep (request : α) (inStep : client.InStep connection connection')
    (leads : client.Leads (client.watched.write request connection).2 transcript)
    (leads' : client.Leads (client.watched.write request connection').2 transcript') :
    Agree client.InStep (client.watched.write request connection)
      (client.watched.write request connection') := by
  rcases inStep.link_cases with ⟨none, none'⟩ | ⟨number, handle, handle', held, held'⟩
  · rw [client.watched.write_of_none request none, client.watched.write_of_none request none']
    exact ⟨rfl, inStep⟩
  · rw [client.watched.write_of_link request held] at leads ⊢
    rw [client.watched.write_of_link request held'] at leads' ⊢
    exact transmit_inStep alike request inStep held held' leads leads'

theorem read_inStep (request : α) (inStep : client.InStep connection connection')
    (leads : client.Leads (client.watched.read request connection).2 transcript)
    (leads' : client.Leads (client.watched.read request connection').2 transcript') :
    Agree client.InStep (client.watched.read request connection)
      (client.watched.read request connection') := by
  rcases inStep.link_cases with ⟨none, none'⟩ | ⟨number, handle, handle', held, held'⟩
  · rw [client.watched.read_of_none request none, client.watched.read_of_none request none']
    exact ⟨rfl, inStep⟩
  · rw [client.watched.read_of_link request held] at leads ⊢
    rw [client.watched.read_of_link request held'] at leads' ⊢
    have honest := inStep.honest.of_sameLink
      (client.watched.receive_sameLink (number, handle) request connection)
    have honest' := inStep.honest'.of_sameLink
      (client.watched.receive_sameLink (number, handle') request connection')
    exact dropOversized_inStep (receive_inStep alike request inStep
      (leads.of_dropOversized honest).begins (leads'.of_dropOversized honest').begins)

theorem attempt_inStep (request : α) (inStep : client.InStep connection connection')
    (leads : client.Leads (client.watched.attempt request connection).2.2 transcript)
    (leads' : client.Leads (client.watched.attempt request connection').2.2 transcript') :
    Agree (Agree client.InStep) (client.watched.attempt request connection)
      (client.watched.attempt request connection') := by
  obtain ⟨result, opened, opened', connected, connected', kept⟩ :=
    (connect_inStep alike inStep (leads.of_attempt inStep.honest).begins
      (leads'.of_attempt inStep.honest').begins).pairs
  rcases result with error | ⟨⟩
  · rw [client.watched.attempt_of_error request connected,
      client.watched.attempt_of_error request connected']
    exact ⟨rfl, rfl, kept⟩
  · have same := inStep.bound_eq request kept
    rcases kept.link_cases with ⟨none, -⟩ | ⟨number, handle, handle', held, held'⟩
    · obtain ⟨link, held⟩ := client.watched.link_of_connect connected
      cases none.symm.trans held
    · rw [client.watched.attempt_of_ok request connected held] at leads ⊢
      rw [client.watched.attempt_of_ok request connected' held', ← same] at leads' ⊢
      obtain ⟨result, final⟩ := exchange_inStep alike _ kept held held' leads leads'
      exact ⟨result, rfl, final⟩

theorem executeFrom_inStep (number more : Nat) (request : α)
    (inStep : client.InStep connection connection')
    (leads : client.Leads (client.watched.executeFrom number more request connection).2.2
      transcript)
    (leads' : client.Leads (client.watched.executeFrom number more request connection').2.2
      transcript') :
    Agree (Agree client.InStep) (client.watched.executeFrom number more request connection)
      (client.watched.executeFrom number more request connection') := by
  -- The induction is on the attempts that are left. What both runs lead to is known from the
  -- beginning and handed down to the attempts.
  induction more generalizing number request connection connection' with
  | zero =>
    obtain ⟨result, rest, rest', tried, tried', agree⟩ :=
      (attempt_inStep alike request inStep (leads.of_executeFrom inStep.honest)
        (leads'.of_executeFrom inStep.honest')).pairs
    obtain ⟨sent, after, after', rfl, rfl, kept⟩ := agree.pairs
    have tries : Agree client.InStep (result, after) (result, after') := ⟨rfl, kept⟩
    by_cases faulted : Faulted result
    · obtain ⟨fault, rfl⟩ := faulted
      rw [executeFrom_of_last_fault number tried, executeFrom_of_last_fault number tried']
      exact ⟨rfl, rfl, close_inStep (kept.note _ _)⟩
    · rw [executeFrom_of_settled number 0 tried faulted,
        executeFrom_of_settled number 0 tried' faulted]
      exact ⟨rfl, rfl, (dropOversized_inStep tries).2⟩
  | succ more ih =>
    obtain ⟨result, rest, rest', tried, tried', agree⟩ :=
      (attempt_inStep alike request inStep (leads.of_executeFrom inStep.honest)
        (leads'.of_executeFrom inStep.honest')).pairs
    obtain ⟨sent, after, after', rfl, rfl, kept⟩ := agree.pairs
    have tries : Agree client.InStep (result, after) (result, after') := ⟨rfl, kept⟩
    by_cases faulted : Faulted result
    · obtain ⟨fault, rfl⟩ := faulted
      have closed := close_inStep (kept.note (.attemptFailed number fault)
        (.attemptFailed number fault))
      rcases waiting : client.backoff.wait number
        (client.watched.close (after.note (.attemptFailed number fault))).drawn with overflow | wait
      all_goals
        have waiting' := waiting
        rw [closed.drawn] at waiting'
      · rw [executeFrom_of_unable number tried rfl waiting,
          executeFrom_of_unable number tried' rfl waiting']
        exact ⟨rfl, rfl, closed.draw⟩
      · rw [executeFrom_of_waited number tried rfl waiting] at leads ⊢
        rw [executeFrom_of_waited number tried' rfl waiting'] at leads' ⊢
        exact ih (number + 1) sent ((closed.draw.note _ _).sleep _ _) leads leads'
    · rw [executeFrom_of_settled number (more + 1) tried faulted,
        executeFrom_of_settled number (more + 1) tried' faulted]
      exact ⟨rfl, rfl, (dropOversized_inStep tries).2⟩

end

end Client

/-! ## Callers -/

/-- How an operation ends, for the one who called it. -/
inductive Ending (α ρ : Type) where
  | connected (result : Except Error Unit)
  | written (result : Except Error Unit)
  | read (result : Except Error ρ)
  /-- A request was carried out or not, and is in this form. -/
  | executed (outcome : Outcome ρ) (request : α)
  | closed

/-- What a caller has of an operation: how it ended, and what is told of the link afterwards. -/
structure Report (α ρ : Type) where
  ending : Ending α ρ
  isOpen : Bool
  session : SessionId

/-- Someone who decides on each operation by the reports on those before it. A sequence of
operations that is fixed from the beginning is one who looks at nothing but the number of the
reports. -/
abbrev Caller (α ρ : Type) : Type := List (Report α ρ) → Operation α

namespace Client

variable {ℓ δ α ρ : Type} [Request α ρ]

/-- How an operation ends. -/
def ending (client : Client ℓ δ) : Operation α → Connection ℓ δ → Ending α ρ
  | .connect, connection => .connected (client.connect connection).1
  | .write request, connection => .written (client.write request connection).1
  | .read request, connection => .read (client.read request connection).1
  | .execute request, connection =>
    .executed (client.execute request connection).1 (client.execute request connection).2.1
  | .close, _ => .closed

/-- The report on an operation. -/
def report (client : Client ℓ δ) (operation : Operation α) (connection : Connection ℓ δ) :
    Report α ρ :=
  { ending := client.ending operation connection
    isOpen := (client.after operation connection).isOpen
    session := (client.after operation connection).session }

/-- So many more operations of a caller: the reports on all operations, and the connection. -/
def serve (client : Client ℓ δ) (caller : Caller α ρ) :
    Nat → List (Report α ρ) → Connection ℓ δ → List (Report α ρ) × Connection ℓ δ
  | 0, reports, connection => (reports, connection)
  | more + 1, reports, connection =>
    serve client caller more (reports ++ [client.report (caller reports) connection])
      (client.after (caller reports) connection)

/-- So many operations of a caller on a new connection, and the end of it. -/
def service (client : Client ℓ δ) (caller : Caller α ρ) (count : Nat) (device : δ) :
    List (Report α ρ) × Connection ℓ δ :=
  ((client.serve caller count [] (.start device)).1,
    client.finish (client.serve caller count [] (.start device)).2)

end Client

namespace Simulation

variable {ℓ ℓ' δ δ' α ρ : Type} [Request α ρ] {client : Client ℓ δ} {other : Client ℓ' δ'}
  {simulation : Simulation client other} {connection : Connection ℓ δ}
  {connection' : Connection ℓ' δ'}

theorem report_eq (operation : Operation α) (related : simulation.Related connection connection') :
    client.report operation connection = other.report operation connection' := by
  have after := after_related operation related
  have endings : client.ending operation connection = other.ending operation connection' := by
    cases operation with
    | connect => exact congrArg Ending.connected (connect_agree related).1
    | write request => exact congrArg Ending.written (write_agree request related).1
    | read request => exact congrArg Ending.read (read_agree request related).1
    | execute request =>
      obtain ⟨outcome, sent, -⟩ := execute_agree request related
      exact congrArg₂ Ending.executed outcome sent
    | close => rfl
  rw [Client.report, Client.report, endings, after.isOpen, after.session]

theorem serve_agree (caller : Caller α ρ) (more : Nat) (reports : List (Report α ρ))
    (related : simulation.Related connection connection') :
    Agree simulation.Related (client.serve caller more reports connection)
      (other.serve caller more reports connection') := by
  induction more generalizing reports connection connection' with
  | zero => exact ⟨rfl, related⟩
  | succ more ih =>
    unfold Client.serve
    rw [report_eq (caller reports) related]
    exact ih _ (after_related (caller reports) related)

end Simulation

namespace Client

variable {ℓ δ α ρ : Type} [Request α ρ] {client : Client ℓ δ}
  {connection connection' : Connection (Nat × ℓ) (Watched δ)}

theorem serve_keeps (caller : Caller α ρ) (more : Nat) (reports : List (Report α ρ))
    (honest : connection.Honest client.binding.handshake) :
    client.Keeps (fun _ => True) connection
      (client.watched.serve caller more reports connection).2 := by
  induction more generalizing reports connection with
  | zero => exact .refl honest
  | succ more ih =>
    have first : client.Keeps (fun _ => True) connection _ :=
      client.after_keeps (caller reports) (fun _ _ => trivial) honest
    exact first.trans (ih _ first.honest)

section

variable {transcript transcript' : List Call}
  (alike : AnswerAlike client.binding.handshake transcript transcript')

include alike

theorem after_inStep (operation : Operation α) (inStep : client.InStep connection connection')
    (leads : client.Leads (client.watched.after operation connection) transcript)
    (leads' : client.Leads (client.watched.after operation connection') transcript') :
    client.watched.ending operation connection = client.watched.ending operation connection' ∧
      client.InStep (client.watched.after operation connection)
        (client.watched.after operation connection') := by
  cases operation with
  | connect =>
    obtain ⟨result, final⟩ := connect_inStep alike inStep leads.begins leads'.begins
    exact ⟨congrArg Ending.connected result, final⟩
  | write request =>
    obtain ⟨result, final⟩ := write_inStep alike request inStep leads leads'
    exact ⟨congrArg Ending.written result, final⟩
  | read request =>
    obtain ⟨result, final⟩ := read_inStep alike request inStep leads leads'
    exact ⟨congrArg Ending.read result, final⟩
  | execute request =>
    obtain ⟨outcome, sent, final⟩ := executeFrom_inStep alike 1 _ request inStep leads leads'
    exact ⟨congrArg₂ Ending.executed outcome sent, final⟩
  | close => exact ⟨rfl, close_inStep inStep⟩

theorem serve_inStep (caller : Caller α ρ) (more : Nat) (reports : List (Report α ρ))
    (inStep : client.InStep connection connection')
    (leads : client.Leads (client.watched.serve caller more reports connection).2 transcript)
    (leads' : client.Leads (client.watched.serve caller more reports connection').2 transcript') :
    Agree client.InStep (client.watched.serve caller more reports connection)
      (client.watched.serve caller more reports connection') := by
  induction more generalizing reports connection connection' with
  | zero => exact ⟨rfl, inStep⟩
  | succ more ih =>
    unfold serve at leads leads' ⊢
    have first : client.Keeps (fun _ => True) connection _ :=
      client.after_keeps (caller reports) (fun _ _ => trivial) inStep.honest
    have first' : client.Keeps (fun _ => True) connection' _ :=
      client.after_keeps (caller reports) (fun _ _ => trivial) inStep.honest'
    obtain ⟨endings, after⟩ := after_inStep alike (caller reports) inStep
      (leads.of_keeps (serve_keeps caller more _ first.honest))
      (leads'.of_keeps (serve_keeps caller more _ first'.honest))
    have reported : client.watched.report (caller reports) connection =
        client.watched.report (caller reports) connection' := by
      rw [report, report, endings, after.isOpen, after.session]
    rw [← reported] at leads' ⊢
    exact ih _ after leads leads'

end

theorem finish_inStep (inStep : client.InStep connection connection') :
    client.InStep (client.watched.finish connection) (client.watched.finish connection') := by
  unfold finish
  rw [inStep.isOpen]
  split
  · exact close_inStep inStep
  · exact inStep

variable (client)

/-- **What comes of giving links up is of no account.** If two devices answer alike, but for the
ends of sessions and of links that the connection itself asks for, then every caller has the same
reports of both, whatever it makes of them, and the same is asked of both, to the very end. -/
theorem service_alike (caller : Caller α ρ) (count : Nat) (device device' : δ)
    (alike : AnswerAlike client.binding.handshake
      (client.watched.service caller count (.fresh device)).2.device.calls
      (client.watched.service caller count (.fresh device')).2.device.calls) :
    (client.service caller count device).1 = (client.service caller count device').1 ∧
    (client.watched.service caller count (.fresh device)).2.device.calls.map Call.ask =
      (client.watched.service caller count (.fresh device')).2.device.calls.map Call.ask ∧
    ∀ start, (client.watched.service caller count (.fresh start)).2.device.device =
      (client.service caller count start).2.device := by
  have started : client.InStep (.start (Watched.fresh device)) (.start (Watched.fresh device')) :=
    ⟨rfl, rfl, rfl, .refl [], .start _, .start _⟩
  have leads (start : δ) :
      client.Leads (client.watched.serve caller count [] (.start (.fresh start))).2
        (client.watched.service caller count (.fresh start)).2.device.calls := by
    have served := client.serve_keeps caller count [] (.start (.fresh start))
    exact ⟨_, (client.finish_keeps served.honest).1.entries⟩
  have watched (start : δ) : Agree client.watching.Related
      (client.watched.serve caller count [] (.start (.fresh start)))
      (client.serve caller count [] (.start start)) :=
    Simulation.serve_agree caller count [] ⟨.none, rfl, rfl, rfl, rfl⟩
  obtain ⟨reports, final⟩ :=
    serve_inStep alike caller count [] started (leads device) (leads device')
  refine ⟨?_, (finish_inStep final).calls.asks,
    fun start => (Simulation.finish_related (watched start).2).device⟩
  exact (watched device).1.symm.trans (reports.trans (watched device').1)

end Client

/-- A session that cannot be ended and a link that cannot be shut down, after an execution that got
no answer and again in the end, change nothing that callers see. -/
theorem service_alike_unanswered :
    let client : Client Unit Rehearsal.Device :=
      ⟨Rehearsal.binding true, { Settings.device "device" 0 with retries := 1 },
        ⟨.ofMillis 500, Draws.cycle []⟩⟩
    let device : Rehearsal.Device := { Rehearsal.Device.mute with sessions := [7, 8] }
    let faulty : Rehearsal.Device :=
      { device with
        unregisterFault := some (.timeout (.ofMillis 2000)), shutdownFault := some .notConnected }
    let request : Encapsulated Bytes :=
      { command := .sendRequestReply, session := 0, payload := [2] }
    let caller : Caller (Encapsulated Bytes) Bytes := fun reports =>
      if reports.isEmpty then .execute request else .connect
    let calls := (client.watched.service caller 2 (.fresh device)).2.device.calls
    let calls' := (client.watched.service caller 2 (.fresh faulty)).2.device.calls
    AnswerAlike client.binding.handshake calls calls' ∧ calls ≠ calls' ∧
      (client.service caller 2 device).1 = (client.service caller 2 faulty).1 ∧
      (client.service caller 2 faulty).1.map Report.isOpen = [false, true] ∧
      (client.service caller 2 faulty).1.map Report.session = [0, 8] := by
  intro client device faulty request caller calls calls'
  have alike : AnswerAlike client.binding.handshake calls calls' := by decide +kernel
  have reports := (client.service_alike caller 2 device faulty alike).1
  refine ⟨alike, ?_, reports, ?_, ?_⟩
  all_goals decide +kernel

end Enip
