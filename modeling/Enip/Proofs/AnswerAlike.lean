import Mathlib.Control.Monad.Basic
import Enip.Proofs.Headers
import Enip.Proofs.Transcripts

/-!
# What is asked and what is answered

A call asks something of the device, and the device answers. `Call.ask` is the first half of a call.
By a `Call.Teardown` a link is given up: its session is ended, or it is shut down, and whatever the
answer is it is of no account.

Two transcripts `AnswerAlike` if the devices give the same answers, those to teardowns aside, for as
long as they are asked the same. Whatever a connection does with one device it then does with the
other. Here this is shown for all that happens while a link is not yet held or is in use: the pieces
of a frame (`Fills.determined`), an exchange (`Exchanged.determined`), and the opening of a link
(`Opening.determined`). No two runs of these can part, for each call is made in answer to the ones
before it.
-/

namespace Enip

/-! ## Asking -/

/-- What is asked of a device. -/
inductive Ask where
  | dial
  | send (link : Nat) (frame : Bytes)
  | receive (link : Nat) (space : Bytes)
  | shut (link : Nat)
deriving DecidableEq

deriving instance DecidableEq for Delivery
deriving instance DecidableEq for Reception
deriving instance DecidableEq for Call

namespace Call

/-- What the call asks of the device. -/
def ask : Call → Ask
  | opened _ => .dial
  | refused _ => .dial
  | sent link frame _ => .send link frame
  | received link reception => .receive link reception.space
  | shut link _ => .shut link

/-- By the call, with these calls after it, a link is given up: it is the last call on the link, or
ends the session just before that. -/
inductive Teardown (handshake : Bool) : Call → List Call → Prop
  | shut {link : Nat} {outcome : Except LinkError Unit} {later : List Call} :
    Teardown handshake (.shut link outcome) later
  | ended (handshaking : handshake = true) {link : Nat} {session : SessionId}
    {outcome gone : Except LinkError Unit} {later : List Call} :
    Teardown handshake (.sent link (unregisterBytes session) outcome) (.shut link gone :: later)

/-- Whether a frame ends a session can be told from the session in it. -/
theorem teardown_sent_iff {handshake : Bool} {link link' : Nat} {frame : Bytes}
    {outcome gone : Except LinkError Unit} {later : List Call} :
    Teardown handshake (.sent link frame outcome) (.shut link' gone :: later) ↔
      handshake = true ∧ link = link' ∧ frame = unregisterBytes (.ofNat (fieldAt 4 4 frame)) := by
  constructor
  · rintro (_ | handshaking)
    rename_i session
    have same : UInt32.ofNat (fieldAt 4 4 (unregisterBytes session)) = session := by
      rw [← bytes_unregisterSession, ← List.append_nil (Header.bytes _), Header.fieldAt_session]
      exact UInt32.ofNat_toNat
    exact ⟨handshaking, rfl, by rw [same]⟩
  · rintro ⟨handshaking, rfl, ends⟩
    rw [ends]
    exact .ended handshaking

instance (handshake : Bool) :
    (call : Call) → (later : List Call) → Decidable (call.Teardown handshake later)
  | .shut _ _, _ => .isTrue .shut
  | .sent _ _ _, .shut _ _ :: _ => decidable_of_iff _ teardown_sent_iff.symm
  | .sent _ _ _, [] | .sent _ _ _, .opened _ :: _ | .sent _ _ _, .refused _ :: _
  | .sent _ _ _, .sent _ _ _ :: _ | .sent _ _ _, .received _ _ :: _
  | .opened _, _ | .refused _, _ | .received _ _, _ => .isFalse nofun

end Call

/-- The transcripts go on with the same answers, those to teardowns aside, for as long as the same
is asked in both. -/
def AnswerAlike (handshake : Bool) : List Call → List Call → Prop
  | call :: later, call' :: later' =>
    call.ask = call'.ask →
      (call.Teardown handshake later ∨ call'.Teardown handshake later' ∨ call = call') ∧
        AnswerAlike handshake later later'
  | _, _ => True

instance (handshake : Bool) :
    (transcript transcript' : List Call) → Decidable (AnswerAlike handshake transcript transcript')
  | _ :: later, _ :: later' =>
    have := instDecidableAnswerAlike handshake later later'
    inferInstanceAs (Decidable (_ → _))
  | [], _ | _ :: _, [] => .isTrue trivial

/-- By the transcript the call, made after these, is none by which a link is given up. -/
def Spared (handshake : Bool) (transcript calls : List Call) (call : Call) : Prop :=
  ∀ later, transcript = calls ++ call :: later → ¬call.Teardown handshake later

section

variable {handshake : Bool} {transcript calls : List Call} {link : Nat}

theorem Spared.of_dial {call : Call} (dials : call.ask = .dial) :
    Spared handshake transcript calls call := by
  rintro later - (_ | _) <;> cases dials

theorem Spared.received (reception : Reception) :
    Spared handshake transcript calls (.received link reception) := by
  rintro later - ⟨⟩

/-- A request for a session ends none. -/
theorem Spared.register (outcome : Except LinkError Unit) :
    Spared handshake transcript calls (.sent link RegisterSession.bytes outcome) := by
  rintro later - teardown
  generalize sent : Call.sent link RegisterSession.bytes outcome = call at teardown
  cases teardown with
  | shut => cases sent
  | @ended _ _ session =>
    have frames : RegisterSession.bytes = unregisterBytes session := by injection sent
    have commands : some (0x65 : UInt8) = some 0x66 := congrArg List.head? frames
    exact absurd commands (by decide)

/-- However a session is asked for, none is ended. -/
theorem Registration.spared {session : Option SessionId} {mine : List Call}
    (registration : Registration link session mine) :
    ∀ call ∈ mine.head?, Spared handshake transcript calls call := by
  rintro call first
  cases registration with
  | unsent _ | denied _ | granted _ =>
    cases first
    exact .register _

end

/-- In both transcripts the same was asked so far, and as many links were opened. -/
structure Together (calls calls' : List Call) : Prop where
  asks : calls.map Call.ask = calls'.map Call.ask
  links : links calls = links calls'

namespace Together

variable {calls calls' more more' : List Call}

theorem append (together : Together calls calls') (further : Together more more') :
    Together (calls ++ more) (calls' ++ more') := by
  refine ⟨?_, ?_⟩
  · rw [List.map_append, List.map_append, together.asks, further.asks]
  · rw [links_append, links_append, together.links, further.links]

theorem refl (calls : List Call) : Together calls calls := ⟨rfl, rfl⟩

end Together

/-! ## Answers that are the same -/

section

variable {handshake : Bool} {transcript transcript' calls calls' : List Call}

/-- The end of a session is asked for in one way. -/
theorem Farewell.together {link : Nat} {session : SessionId} {handshake : Bool}
    {mine mine' : List Call} (ending : Farewell handshake link session mine)
    (ending' : Farewell handshake link session mine') : Together mine mine' := by
  cases ending with
  | plain plain =>
    cases ending' with
    | plain _ => exact .refl _
    | registered handshaking _ => cases plain.symm.trans handshaking
  | registered handshaking _ =>
    cases ending' with
    | plain plain => cases plain.symm.trans handshaking
    | registered _ _ => exact ⟨rfl, rfl⟩

/-- Where the same was asked so far, and the same is asked now, the answers are the same. -/
theorem AnswerAlike.same (alike : AnswerAlike handshake transcript transcript')
    (asks : calls.map Call.ask = calls'.map Call.ask) {call call' : Call} {more more' : List Call}
    (begins : calls ++ call :: more <+: transcript)
    (begins' : calls' ++ call' :: more' <+: transcript') (ask : call.ask = call'.ask)
    (spared : Spared handshake transcript calls call)
    (spared' : Spared handshake transcript' calls' call') : call = call' := by
  obtain ⟨later, rfl⟩ := begins
  obtain ⟨later', rfl⟩ := begins'
  have kept := spared (more ++ later) (by simp)
  have kept' := spared' (more' ++ later') (by simp)
  clear spared spared'
  induction calls generalizing calls' with
  | nil =>
    obtain rfl := List.map_eq_nil_iff.1 asks.symm
    obtain ⟨teardown | teardown | same, -⟩ := alike ask
    · exact absurd teardown kept
    · exact absurd teardown kept'
    · exact same
  | cons first calls ih =>
    rcases calls' with _ | ⟨first', calls'⟩
    · cases asks
    · obtain ⟨ask', asks'⟩ := List.cons.inj asks
      exact ih asks' (alike ask').2

-- That transcripts are alike is used through this lemma alone, or evaluated: to unfold the
-- predicate at two transcripts would be to run both devices.
attribute [irreducible] AnswerAlike

variable (alike : AnswerAlike handshake transcript transcript')

include alike

/-- The pieces of a frame are the same, and so is what they come to. -/
theorem Fills.determined {replySize : Bytes → Nat} {buffer longer longer' : FrameBuffer}
    {receptions receptions' : List Reception} {filled filled' : Except Error Unit} {link : Nat}
    (fills : Fills replySize buffer receptions filled longer)
    (fills' : Fills replySize buffer receptions' filled' longer')
    (asks : calls.map Call.ask = calls'.map Call.ask)
    (begins : calls ++ receptions.map (.received link) <+: transcript)
    (begins' : calls' ++ receptions'.map (.received link) <+: transcript') :
    receptions = receptions' ∧ filled = filled' ∧ longer = longer' := by
  have head {outcome outcome' : Except LinkError Delivery} {calls calls' more more' : List Call}
      {space : Bytes} (asks : calls.map Call.ask = calls'.map Call.ask)
      (begins : calls ++ .received link ⟨space, outcome⟩ :: more <+: transcript)
      (begins' : calls' ++ .received link ⟨space, outcome'⟩ :: more' <+: transcript') :
      outcome = outcome' := by
    have same : Call.received link ⟨space, outcome⟩ = .received link ⟨space, outcome'⟩ :=
      alike.same asks begins begins' rfl (.received _) (.received _)
    injection same with _ same
    injection same
  -- The induction is on the pieces of the one frame, and the other is taken apart beside it. Where
  -- the two go on in different ways, they do so upon the same piece, which allows one way only.
  induction fills generalizing calls calls' receptions' with
  | full full =>
    cases fills' with
    | full _ => exact ⟨rfl, rfl, rfl⟩
    | fault room _ | ended room _ | whole room _ _ | more room _ _ _ => exact absurd full room
  | fault room fault =>
    cases fills' with
    | full full => exact absurd full room
    | fault _ _ =>
      cases head asks begins begins'
      exact ⟨rfl, rfl, rfl⟩
    | ended _ _ | whole _ _ _ | more _ _ _ _ => cases head asks begins begins'
  | ended room none =>
    cases fills' with
    | full full => exact absurd full room
    | fault _ _ => cases head asks begins begins'
    | ended _ _ =>
      cases head asks begins begins'
      exact ⟨rfl, rfl, rfl⟩
    | whole _ some _ | more _ some _ _ =>
      cases head asks begins begins'
      exact absurd none some
  | whole room some enough =>
    cases fills' with
    | full full => exact absurd full room
    | fault _ _ => cases head asks begins begins'
    | ended _ none =>
      cases head asks begins begins'
      exact absurd none some
    | whole _ _ _ =>
      cases head asks begins begins'
      exact ⟨rfl, rfl, rfl⟩
    | more _ _ short _ =>
      cases head asks begins begins'
      exact absurd enough (Nat.not_le_of_lt short)
  | more room some short _ ih =>
    cases fills' with
    | full full => exact absurd full room
    | fault _ _ => cases head asks begins begins'
    | ended _ none =>
      cases head asks begins begins'
      exact absurd none some
    | whole _ _ enough =>
      cases head asks begins begins'
      exact absurd enough (Nat.not_le_of_lt short)
    | more _ _ _ rest =>
      cases head asks begins begins'
      rw [List.map_cons, List.append_cons] at begins begins'
      obtain ⟨rfl, same⟩ := ih rest (by simp [asks]) begins begins'
      exact ⟨rfl, same⟩

/-- The reply to a request is the same. -/
theorem Heard.determined {α ρ : Type} [Request α ρ] {link : Nat} {request : α}
    {result result' : Except Error ρ} {receptions receptions' : List Reception}
    (heard : Heard request receptions result) (heard' : Heard request receptions' result')
    (asks : calls.map Call.ask = calls'.map Call.ask)
    (begins : calls ++ receptions.map (.received link) <+: transcript)
    (begins' : calls' ++ receptions'.map (.received link) <+: transcript') :
    result = result' ∧ receptions = receptions' := by
  obtain ⟨filled, longer, fills, rfl⟩ := heard
  obtain ⟨filled', longer', fills', rfl⟩ := heard'
  obtain ⟨rfl, rfl, rfl⟩ := fills.determined alike fills' asks begins begins'
  exact ⟨rfl, rfl⟩

/-- An exchange that does not begin with the end of a session has the same calls and the same
result. -/
theorem Exchanged.determined {α ρ : Type} [Request α ρ] {link : Nat} {request : α}
    {result result' : Except Error ρ} {mine mine' : List Call}
    (exchanged : Exchanged link request result mine)
    (exchanged' : Exchanged link request result' mine')
    (asks : calls.map Call.ask = calls'.map Call.ask)
    (begins : calls ++ mine <+: transcript) (begins' : calls' ++ mine' <+: transcript')
    (spared : ∀ call ∈ mine.head?, Spared handshake transcript calls call)
    (spared' : ∀ call ∈ mine'.head?, Spared handshake transcript' calls' call) :
    result = result' ∧ mine = mine' := by
  cases exchanged with
  | unwritten unwritten =>
    cases exchanged' with
    | unwritten unwritten' =>
      cases unwritten.symm.trans unwritten'
      exact ⟨rfl, rfl⟩
    | unsent written _ | sent written _ => cases unwritten.symm.trans written
  | unsent written fault =>
    cases exchanged' with
    | unwritten unwritten => cases unwritten.symm.trans written
    | unsent written' _ =>
      cases written.symm.trans written'
      cases alike.same asks begins begins' rfl (spared _ rfl) (spared' _ rfl)
      exact ⟨rfl, rfl⟩
    | sent written' _ =>
      cases written.symm.trans written'
      cases alike.same asks begins begins' rfl (spared _ rfl) (spared' _ rfl)
  | sent written heard =>
    cases exchanged' with
    | unwritten unwritten => cases unwritten.symm.trans written
    | unsent written' _ =>
      cases written.symm.trans written'
      cases alike.same asks begins begins' rfl (spared _ rfl) (spared' _ rfl)
    | sent written' heard' =>
      cases written.symm.trans written'
      rw [List.append_cons] at begins begins'
      obtain ⟨same, rfl⟩ := heard.determined alike heard' (by simp [asks]) begins begins'
      exact ⟨same, rfl⟩

/-- A link is opened in the same way, with the same session or for the same reason not; only what
comes of giving it up again may differ. -/
theorem Opening.determined {link : Nat} {session session' : Except Error SessionId}
    {mine mine' : List Call} (opening : Opening handshake link session mine)
    (opening' : Opening handshake link session' mine')
    (asks : calls.map Call.ask = calls'.map Call.ask)
    (begins : calls ++ mine <+: transcript) (begins' : calls' ++ mine' <+: transcript') :
    session = session' ∧ Together mine mine' := by
  have first {call call' : Call} {more more' : List Call}
      (begins : calls ++ call :: more <+: transcript)
      (begins' : calls' ++ call' :: more' <+: transcript') (dials : call.ask = .dial)
      (dials' : call'.ask = .dial) : call = call' :=
    alike.same asks begins begins' (dials.trans dials'.symm) (.of_dial dials) (.of_dial dials')
  have registered {result result' : Except Error SessionId} {registration registration' : List Call}
      (asked : Exchanged link RegisterSession.mk result registration)
      (asked' : Exchanged link RegisterSession.mk result' registration')
      (begins : calls ++ .opened link :: registration <+: transcript)
      (begins' : calls' ++ .opened link :: registration' <+: transcript') :
      result = result' ∧ registration = registration' := by
    rw [List.append_cons] at begins begins'
    exact asked.determined alike asked' (by simp [asks]) begins begins' asked.registration.spared
      asked'.registration.spared
  have short {calls transcript registration : List Call} {outcome : Except LinkError Unit}
      (begins : calls ++ .opened link :: (registration ++ [.shut link outcome]) <+: transcript) :
      calls ++ .opened link :: registration <+: transcript := by
    rw [← List.cons_append, ← List.append_assoc] at begins
    exact (List.prefix_append ..).trans begins
  -- Openings of different kinds are told apart by what dialling comes to, or else by the session.
  cases opening with
  | refused fault =>
    cases opening' with
    | refused fault' =>
      cases first begins begins' rfl rfl
      exact ⟨rfl, .refl _⟩
    | unregistered _ _ _ | plain _ | registered _ _ => cases first begins begins' rfl rfl
  | unregistered handshaking denied outcome =>
    cases opening' with
    | refused fault => cases first begins begins' rfl rfl
    | unregistered _ denied' outcome' =>
      obtain ⟨same, rfl⟩ := registered denied denied' (short begins) (short begins')
      cases same
      exact ⟨rfl, (Together.refl (.opened link :: _)).append ⟨rfl, rfl⟩⟩
    | plain plain => cases plain.symm.trans handshaking
    | registered _ granted => cases (registered denied granted (short begins) begins').1
  | plain plain =>
    cases opening' with
    | refused fault => cases first begins begins' rfl rfl
    | unregistered handshaking _ _ | registered handshaking _ => cases plain.symm.trans handshaking
    | plain _ => exact ⟨rfl, .refl _⟩
  | registered handshaking granted =>
    cases opening' with
    | refused fault => cases first begins begins' rfl rfl
    | unregistered _ denied _ => cases (registered granted denied begins (short begins')).1
    | plain plain => cases plain.symm.trans handshaking
    | registered _ granted' =>
      obtain ⟨same, rfl⟩ := registered granted granted' begins begins'
      exact ⟨same, .refl _⟩

end

end Enip
