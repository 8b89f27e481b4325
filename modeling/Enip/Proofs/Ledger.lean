import Mathlib.Logic.Relation
import Enip.Proofs.Frames
import Enip.Proofs.Watching

/-!
# The ledger of a connection

An `Account` is what can be told from outside: which link is held, in which session, and all calls
so far. An `Entry` is one of the five ways in which the account of a connection goes on: no link
could be opened, no session could be registered on the one that was, a link is held, it is used, it
is given up. A connection in the hands of its callers makes entries and nothing else
(`Enip.Proofs.Entries`); here is what follows for the calls on each link.

* `Lives` is the invariant: every link that was opened has a `Life`, which is over unless it is the
  link held (`Lives.of_entries`).
* `Entries.session_eq`: as long as a link is held, its session stays.
* `Entries.alone`: when a link is opened, the ones before it have been given up.
-/

namespace Enip

/-! ## Entries -/

/-- The bytes that receptions put into an empty buffer. -/
def brought (receptions : List Reception) : Bytes := (FrameBuffer.empty.gather receptions).bytes

/-- The calls by which a session is asked for on a link, and the session if there is one. -/
inductive Registration (link : Nat) : Option SessionId → List Call → Prop
  | unsent (fault : LinkError) :
    Registration link none [.sent link RegisterSession.bytes (.error fault)]
  /-- Whatever was received, it registers no session. -/
  | denied {receptions : List Reception}
    (undecoded : ∀ session, RegisterSession.decode (brought receptions) ≠ .ok session) :
    Registration link none
      (.sent link RegisterSession.bytes (.ok ()) :: receptions.map (.received link))
  | granted {receptions : List Reception} {session : SessionId}
    (decoded : RegisterSession.decode (brought receptions) = .ok session) :
    Registration link (some session)
      (.sent link RegisterSession.bytes (.ok ()) :: receptions.map (.received link))

/-- The calls that come before a new link is held: a session is registered, if that is asked for. -/
inductive Beginning (handshake : Bool) (link : Nat) : SessionId → List Call → Prop
  | plain (plain : handshake = false) : Beginning handshake link 0 []
  | registered (handshaking : handshake = true) {session : SessionId} {registration : List Call}
    (granted : Registration link (some session) registration) :
    Beginning handshake link session registration

/-- The calls that a link in use may see: it is received from, and the frames of callers are sent.
-/
inductive InUse (callers : Bytes → Prop) (link : Nat) : Call → Prop
  | sent {frame : Bytes} (called : callers frame) (outcome : Except LinkError Unit) :
    InUse callers link (.sent link frame outcome)
  | received (reception : Reception) : InUse callers link (.received link reception)

/-- The calls that come before a link is given up: its session is ended, if there is one. -/
inductive Farewell (handshake : Bool) (link : Nat) (session : SessionId) : List Call → Prop
  | plain (plain : handshake = false) : Farewell handshake link session []
  /-- The device is told, whether or not it hears. -/
  | registered (handshaking : handshake = true) (outcome : Except LinkError Unit) :
    Farewell handshake link session [.sent link (unregisterBytes session) outcome]

/-- What can be told of a connection from outside. -/
structure Account where
  /-- The number and the session of the link held, if there is one. -/
  held : Option (Nat × SessionId)
  calls : List Call

/-- The account of a connection that has not been used. -/
def Account.fresh : Account := ⟨none, []⟩

section

variable (handshake : Bool) (callers : Bytes → Prop)

/-- One of the ways in which an account goes on. -/
inductive Entry : Account → Account → Prop
  | refused {calls : List Call} (fault : LinkError) :
    Entry ⟨none, calls⟩ ⟨none, calls ++ [.refused fault]⟩
  /-- A link was opened, and given up for want of a session. -/
  | unregistered {calls registration : List Call} (handshaking : handshake = true)
    (denied : Registration (links calls) none registration) (outcome : Except LinkError Unit) :
    Entry ⟨none, calls⟩
      ⟨none, calls ++ .opened (links calls) :: (registration ++ [.shut (links calls) outcome])⟩
  | opened {calls begun : List Call} {session : SessionId}
    (beginning : Beginning handshake (links calls) session begun) :
    Entry ⟨none, calls⟩ ⟨some (links calls, session), calls ++ .opened (links calls) :: begun⟩
  | used {link : Nat} {session : SessionId} {calls use : List Call}
    (inUse : ∀ call ∈ use, InUse callers link call) :
    Entry ⟨some (link, session), calls⟩ ⟨some (link, session), calls ++ use⟩
  | closed {link : Nat} {session : SessionId} {calls farewell : List Call}
    (ending : Farewell handshake link session farewell) (outcome : Except LinkError Unit) :
    Entry ⟨some (link, session), calls⟩ ⟨none, calls ++ (farewell ++ [.shut link outcome])⟩

/-- Any number of entries. -/
abbrev Entries : Account → Account → Prop := Relation.ReflTransGen (Entry handshake callers)

/-! ## The life of a link -/

/-- All that happens on a link between its opening and its end. -/
inductive Finished (link : Nat) : List Call → Prop
  | plain (plain : handshake = false) {use : List Call}
    (inUse : ∀ call ∈ use, InUse callers link call) : Finished link use
  | unregistered (handshaking : handshake = true) {registration : List Call}
    (denied : Registration link none registration) : Finished link registration
  | registered (handshaking : handshake = true) {session : SessionId} {registration use : List Call}
    (granted : Registration link (some session) registration)
    (inUse : ∀ call ∈ use, InUse callers link call) (outcome : Except LinkError Unit) :
    Finished link (registration ++ (use ++ [.sent link (unregisterBytes session) outcome]))

/-- All that happens on a link, and the session of the link unless its life is over. -/
inductive Life (link : Nat) : Option SessionId → List Call → Prop
  | held {session : SessionId} {begun use : List Call}
    (beginning : Beginning handshake link session begun)
    (inUse : ∀ call ∈ use, InUse callers link call) :
    Life link (some session) (.opened link :: (begun ++ use))
  | over {mine : List Call} (finished : Finished handshake callers link mine)
    (outcome : Except LinkError Unit) :
    Life link none (.opened link :: (mine ++ [.shut link outcome]))

variable {handshake callers}

namespace Life

variable {link : Nat} {session : SessionId} {calls : List Call}

/-- A link that is held may be used. -/
theorem use {more : List Call} (life : Life handshake callers link (some session) calls)
    (inUse : ∀ call ∈ more, InUse callers link call) :
    Life handshake callers link (some session) (calls ++ more) := by
  obtain ⟨beginning, before⟩ := life
  rw [List.cons_append, List.append_assoc]
  refine .held beginning fun call member => ?_
  rcases List.mem_append.1 member with earlier | later
  · exact before call earlier
  · exact inUse call later

/-- A link that is held may be given up. -/
theorem close {farewell : List Call} (life : Life handshake callers link (some session) calls)
    (ending : Farewell handshake link session farewell) (outcome : Except LinkError Unit) :
    Life handshake callers link none (calls ++ (farewell ++ [.shut link outcome])) := by
  obtain ⟨beginning, inUse⟩ := life
  rename_i begun use
  rw [List.cons_append, ← List.append_assoc]
  refine .over ?_ outcome
  cases ending with
  | plain plain =>
    cases beginning with
    | plain _ => simpa using Finished.plain plain inUse
    | registered handshaking _ => exact absurd handshaking (by rw [plain]; decide)
  | registered handshaking sent =>
    cases beginning with
    | plain plain => exact absurd handshaking (by rw [plain]; decide)
    | registered _ granted =>
      rw [List.append_assoc]
      exact .registered handshaking granted inUse sent

end Life

end

/-! ## Calls on one link -/

/-- The calls are made on this link, which is open. -/
def OnLink (link : Nat) (calls : List Call) : Prop :=
  ∀ call ∈ calls, call.link? = some link ∧ call.opens = false

namespace OnLink

variable {link : Nat} {calls more : List Call}

theorem append (first : OnLink link calls) (second : OnLink link more) :
    OnLink link (calls ++ more) := by
  intro call member
  rcases List.mem_append.1 member with earlier | later
  · exact first call earlier
  · exact second call later

theorem shut (link : Nat) (outcome : Except LinkError Unit) :
    OnLink link [.shut link outcome] := by
  intro call member
  rw [List.mem_singleton.1 member]
  exact ⟨rfl, rfl⟩

theorem sent (link : Nat) (frame : Bytes) (outcome : Except LinkError Unit) :
    OnLink link [.sent link frame outcome] := by
  intro call member
  rw [List.mem_singleton.1 member]
  exact ⟨rfl, rfl⟩

theorem received (link : Nat) (receptions : List Reception) :
    OnLink link (receptions.map (.received link)) := by
  intro call member
  obtain ⟨reception, -, rfl⟩ := List.mem_map.1 member
  exact ⟨rfl, rfl⟩

theorem links_eq (onLink : OnLink link calls) : links calls = 0 :=
  List.countP_eq_zero.2 fun call member => by rw [(onLink call member).2]; decide

theorem callsOn_self (onLink : OnLink link calls) : callsOn link calls = calls :=
  List.filter_eq_self.2 fun call member => decide_eq_true (onLink call member).1

theorem callsOn_of_ne {other : Nat} (onLink : OnLink link calls) (different : other ≠ link) :
    callsOn other calls = [] := by
  refine List.filter_eq_nil_iff.2 fun call member same => different ?_
  have found := (onLink call member).1.symm.trans (of_decide_eq_true same)
  exact (Option.some.inj found).symm

theorem links_opened (onLink : OnLink (links calls) more) :
    links (calls ++ .opened (links calls) :: more) = links calls + 1 := by
  have one : links (.opened (links calls) :: more) = links more + 1 := List.countP_cons_of_pos rfl
  rw [links_append, one, onLink.links_eq]

/-- Nothing happens on the other links when one is opened. -/
theorem callsOn_opened {other : Nat} (onLink : OnLink (links calls) more)
    (different : other ≠ links calls) :
    callsOn other (calls ++ .opened (links calls) :: more) = callsOn other calls := by
  have first : callsOn other [.opened (links calls)] = [] :=
    List.filter_cons_of_neg (by simpa [Call.link?] using different.symm)
  rw [← List.singleton_append, callsOn_append, callsOn_append, first,
    onLink.callsOn_of_ne different, List.append_nil, List.append_nil]

end OnLink

/-- All calls were made on links that were opened. -/
def Numbered (calls : List Call) : Prop :=
  ∀ call ∈ calls, ∀ link, call.link? = some link → link < links calls

namespace Numbered

variable {link other : Nat} {calls mine : List Call}

/-- The next link has seen no call. -/
theorem callsOn_links (numbered : Numbered calls) : callsOn (links calls) calls = [] := by
  refine List.filter_eq_nil_iff.2 fun call member same => ?_
  exact Nat.lt_irrefl _ (numbered call member _ (of_decide_eq_true same))

theorem refused (numbered : Numbered calls) (fault : LinkError) :
    Numbered (calls ++ [.refused fault]) := by
  intro call member link named
  rw [links_append]
  rcases List.mem_append.1 member with earlier | later
  · exact numbered call earlier link named
  · rw [List.mem_singleton.1 later] at named
    cases named

theorem append (numbered : Numbered calls) (isOpen : link < links calls)
    (onLink : OnLink link mine) : Numbered (calls ++ mine) := by
  intro call member other named
  rw [links_append, onLink.links_eq]
  rcases List.mem_append.1 member with earlier | later
  · exact numbered call earlier other named
  · cases (onLink call later).1.symm.trans named
    exact isOpen

theorem opened (numbered : Numbered calls) (onLink : OnLink (links calls) mine) :
    Numbered (calls ++ .opened (links calls) :: mine) := by
  intro call member link named
  rw [onLink.links_opened]
  rcases List.mem_append.1 member with earlier | later
  · exact Nat.lt_succ_of_lt (numbered call earlier link named)
  · rcases List.mem_cons.1 later with rfl | now
    · cases named
      exact Nat.lt_succ_self _
    · cases (onLink call now).1.symm.trans named
      exact Nat.lt_succ_self _

/-- Opening a link and using it is all that happens on that link. -/
theorem callsOn_opened (numbered : Numbered calls) (onLink : OnLink (links calls) mine) :
    callsOn (links calls) (calls ++ .opened (links calls) :: mine) =
      .opened (links calls) :: mine := by
  have first : callsOn (links calls) [.opened (links calls)] = [.opened (links calls)] :=
    List.filter_cons_of_pos (decide_eq_true rfl)
  rw [← List.singleton_append, callsOn_append, callsOn_append, first, onLink.callsOn_self,
    numbered.callsOn_links, List.nil_append]

end Numbered

/-- A session is asked for once, and then something may be received. -/
theorem Registration.call_cases {link : Nat} {session : Option SessionId} {calls : List Call}
    (registration : Registration link session calls) {call : Call} (member : call ∈ calls) :
    (∃ outcome, call = .sent link RegisterSession.bytes outcome) ∨
      ∃ reception, call = .received link reception := by
  have heard (outcome : Except LinkError Unit) (receptions : List Reception)
      (member : call ∈ Call.sent link RegisterSession.bytes outcome ::
        receptions.map (Call.received link)) :
      (∃ outcome, call = .sent link RegisterSession.bytes outcome) ∨
        ∃ reception, call = .received link reception := by
    rcases List.mem_cons.1 member with rfl | later
    · exact .inl ⟨outcome, rfl⟩
    · obtain ⟨reception, -, rfl⟩ := List.mem_map.1 later
      exact .inr ⟨reception, rfl⟩
  cases registration with
  | unsent fault => exact heard _ [] member
  | denied _ => exact heard _ _ member
  | granted _ => exact heard _ _ member

theorem Registration.onLink {link : Nat} {session : Option SessionId} {calls : List Call}
    (registration : Registration link session calls) : OnLink link calls := by
  intro call member
  rcases registration.call_cases member with ⟨outcome, rfl⟩ | ⟨reception, rfl⟩
  · exact ⟨rfl, rfl⟩
  · exact ⟨rfl, rfl⟩

theorem Beginning.onLink {handshake : Bool} {link : Nat} {session : SessionId} {calls : List Call}
    (beginning : Beginning handshake link session calls) : OnLink link calls := by
  cases beginning with
  | plain _ =>
    intro call member
    cases member
  | registered _ granted => exact granted.onLink

theorem InUse.onLink {callers : Bytes → Prop} {link : Nat} {calls : List Call}
    (inUse : ∀ call ∈ calls, InUse callers link call) : OnLink link calls := by
  intro call member
  cases inUse call member with
  | sent _ _ => exact ⟨rfl, rfl⟩
  | received _ => exact ⟨rfl, rfl⟩

theorem Farewell.onLink {handshake : Bool} {link : Nat} {session : SessionId} {calls : List Call}
    (ending : Farewell handshake link session calls) : OnLink link calls := by
  intro call member
  cases ending with
  | plain _ => cases member
  | registered _ _ =>
    rw [List.mem_singleton.1 member]
    exact ⟨rfl, rfl⟩

/-! ## Every link has a life -/

/-- The session of a link that is held. -/
def Account.session? (account : Account) (link : Nat) : Option SessionId :=
  account.held.bind fun held => if held.1 = link then some held.2 else none

/-- The account in which a link is held, if it has a session. -/
def Account.holding (link : Nat) (session : Option SessionId) (calls : List Call) : Account :=
  ⟨session.map (link, ·), calls⟩

@[simp] theorem Account.session?_holding (link : Nat) (session : Option SessionId)
    (calls : List Call) : (holding link session calls).session? link = session := by
  cases session <;> simp [holding, session?]

@[simp] theorem Account.calls_holding (link : Nat) (session : Option SessionId)
    (calls : List Call) : (holding link session calls).calls = calls := rfl

theorem Account.session?_holding_of_ne {link other : Nat} (different : other ≠ link)
    (session : Option SessionId) (calls : List Call) :
    (holding link session calls).session? other = none := by
  cases session <;> simp [holding, session?, different.symm]

/-- Every link that was opened has a life, which is over unless the link is held. -/
structure Lives (handshake : Bool) (callers : Bytes → Prop) (account : Account) : Prop where
  held : ∀ held, account.held = some held → held.1 < links account.calls
  opened : ∀ call ∈ account.calls, ∀ link, call.link? = some link → link < links account.calls
  life : ∀ link < links account.calls,
    Life handshake callers link (account.session? link) (callsOn link account.calls)

namespace Lives

variable {handshake : Bool} {callers : Bytes → Prop} {calls mine : List Call} {link : Nat}
  (session : Option SessionId)

theorem fresh : Lives handshake callers .fresh := by
  refine ⟨?_, ?_, ?_⟩
  · intro held holds
    cases holds
  · intro call member
    cases member
  · intro link opened
    exact absurd opened (Nat.not_lt_zero link)

/-- No link could be opened. -/
theorem refuse (lives : Lives handshake callers ⟨none, calls⟩) (fault : LinkError) :
    Lives handshake callers ⟨none, calls ++ [.refused fault]⟩ := by
  refine ⟨?_, Numbered.refused lives.opened fault, ?_⟩
  · intro held holds
    cases holds
  · intro link opened
    rw [links_append] at opened
    have same : callsOn link (calls ++ [.refused fault]) = callsOn link calls := by
      rw [callsOn_append]
      exact List.append_nil _
    rw [same]
    exact lives.life link opened

/-- A link is opened, and lives for a while. -/
theorem next (lives : Lives handshake callers ⟨none, calls⟩) (onLink : OnLink (links calls) mine)
    (life : Life handshake callers (links calls) session (.opened (links calls) :: mine)) :
    Lives handshake callers
      (.holding (links calls) session (calls ++ .opened (links calls) :: mine)) := by
  have count := onLink.links_opened
  refine ⟨?_, Numbered.opened lives.opened onLink, ?_⟩
  · intro held holds
    obtain ⟨session, -, rfl⟩ := Option.map_eq_some_iff.1 holds
    exact count ▸ Nat.lt_succ_self _
  · intro link opened
    rw [Account.calls_holding]
    rcases Nat.lt_succ_iff_lt_or_eq.1 (count ▸ opened) with earlier | rfl
    · have different : link ≠ links calls := Nat.ne_of_lt earlier
      rw [Account.session?_holding_of_ne different,
        onLink.callsOn_opened different]
      exact lives.life link earlier
    · rw [Account.session?_holding, Numbered.callsOn_opened lives.opened onLink]
      exact life

/-- The link held lives on, or comes to its end. -/
theorem go {before : SessionId} (lives : Lives handshake callers ⟨some (link, before), calls⟩)
    (onLink : OnLink link mine)
    (life : Life handshake callers link session (callsOn link calls ++ mine)) :
    Lives handshake callers (.holding link session (calls ++ mine)) := by
  have isOpen : link < links calls := lives.held (link, before) rfl
  have count : links (calls ++ mine) = links calls := by
    rw [links_append, onLink.links_eq, Nat.add_zero]
  refine ⟨?_, Numbered.append lives.opened isOpen onLink, ?_⟩
  · intro held holds
    obtain ⟨session, -, rfl⟩ := Option.map_eq_some_iff.1 holds
    exact count ▸ isOpen
  · intro other opened
    by_cases same : other = link
    · subst same
      have seen : callsOn other (calls ++ mine) = callsOn other calls ++ mine := by
        rw [callsOn_append, onLink.callsOn_self]
      rw [Account.session?_holding, Account.calls_holding, seen]
      exact life
    · have seen : callsOn other (calls ++ mine) = callsOn other calls := by
        rw [callsOn_append, onLink.callsOn_of_ne same, List.append_nil]
      have unheld := lives.life other (count ▸ opened)
      change Life _ _ _ (Account.session? (.holding link (some before) calls) other) _ at unheld
      rw [Account.session?_holding_of_ne same] at unheld
      rw [Account.session?_holding_of_ne same, Account.calls_holding, seen]
      exact unheld

/-- The life of the link held. -/
theorem life_held {before : SessionId}
    (lives : Lives handshake callers ⟨some (link, before), calls⟩) :
    Life handshake callers link (some before) (callsOn link calls) := by
  have life := lives.life link (lives.held (link, before) rfl)
  change Life _ _ _ (Account.session? (.holding link (some before) calls) link) _ at life
  rwa [Account.session?_holding] at life

/-- An entry ends no life but the one of the link held. -/
theorem entry {account after : Account} (lives : Lives handshake callers account)
    (entry : Entry handshake callers account after) : Lives handshake callers after := by
  cases entry with
  | refused fault => exact lives.refuse fault
  | unregistered handshaking denied outcome =>
    exact lives.next none (denied.onLink.append (.shut _ _))
      (.over (.unregistered handshaking denied) outcome)
  | @opened calls begun session beginning =>
    refine lives.next (some session) beginning.onLink ?_
    have life : Life handshake callers (links calls) (some session)
        (.opened (links calls) :: (begun ++ [])) := .held beginning nofun
    rwa [List.append_nil] at life
  | used inUse => exact lives.go (some _) (InUse.onLink inUse) (lives.life_held.use inUse)
  | closed ending outcome =>
    exact lives.go none (ending.onLink.append (.shut _ _))
      (lives.life_held.close ending outcome)

/-- **Every link that was opened has a life.** -/
theorem of_entries {account : Account} (entries : Entries handshake callers .fresh account) :
    Lives handshake callers account := by
  induction entries with
  | refl => exact .fresh
  | tail _ entry ih => exact ih.entry entry

end Lives

/-! ## What entries leave alone -/

namespace Entries

variable {handshake : Bool} {callers : Bytes → Prop} {account after : Account}

/-- Links are not forgotten, and a link that is held is the one held before or a newer one. -/
theorem held_eq_or_links_le (entries : Entries handshake callers account after) :
    links account.calls ≤ links after.calls ∧
      ∀ held, after.held = some held → account.held = some held ∨ links account.calls ≤ held.1 := by
  induction entries with
  | refl => exact ⟨Nat.le_refl _, fun held holds => .inl holds⟩
  | tail _ entry ih =>
    obtain ⟨grown, old⟩ := ih
    have grow (calls more : List Call) (le : links account.calls ≤ links calls) :
        links account.calls ≤ links (calls ++ more) := by
      rw [links_append]
      exact Nat.le_add_right_of_le le
    cases entry with
    | refused fault => exact ⟨grow _ _ grown, nofun⟩
    | unregistered _ _ _ => exact ⟨grow _ _ grown, nofun⟩
    | opened _ =>
      refine ⟨grow _ _ grown, fun held holds => .inr ?_⟩
      cases holds
      exact grown
    | used _ => exact ⟨grow _ _ grown, old⟩
    | closed _ _ => exact ⟨grow _ _ grown, nofun⟩

/-- Calls are not forgotten. -/
theorem calls_grow (entries : Entries handshake callers account after) :
    account.calls <+: after.calls := by
  induction entries with
  | refl => exact List.prefix_refl _
  | tail _ entry ih =>
    refine ih.trans ?_
    cases entry with
    | refused _ => exact List.prefix_append ..
    | unregistered _ _ _ => exact List.prefix_append ..
    | opened _ => exact List.prefix_append ..
    | used _ => exact List.prefix_append ..
    | closed _ _ => exact List.prefix_append ..

/-- **As long as a link is held, its session stays.** -/
theorem session_eq (lives : Lives handshake callers account)
    (entries : Entries handshake callers account after) {link : Nat} {session later : SessionId}
    (held : account.held = some (link, session)) (still : after.held = some (link, later)) :
    later = session := by
  rcases entries.held_eq_or_links_le.2 _ still with same | newer
  · rw [held] at same
    cases same
    rfl
  · exact absurd newer (Nat.not_le_of_lt (lives.held (link, session) held))

end Entries

/-- Whenever a link is opened, those opened before it have been given up. -/
def Alone (calls : List Call) : Prop :=
  ∀ before link after, calls = before ++ .opened link :: after →
    ∀ earlier, .opened earlier ∈ before → ∃ outcome, .shut earlier outcome ∈ before

namespace Alone

variable {calls more : List Call}

theorem append (alone : Alone calls) (quiet : ∀ call ∈ more, call.opens = false) :
    Alone (calls ++ more) := by
  intro before link after split
  have absent (rest : List Call) : more ≠ rest ++ .opened link :: after := by
    rintro rfl
    exact Bool.noConfusion (quiet (.opened link) (by simp))
  rcases List.append_eq_append_iff.1 split with ⟨rest, -, found⟩ | ⟨rest, earlier, found⟩
  · exact absurd found (absent rest)
  · cases rest with
    | nil => exact absurd found.symm (absent [])
    | cons call rest =>
      obtain ⟨rfl, -⟩ := List.cons.inj found
      exact alone before link rest earlier

theorem append_opened (alone : Alone calls) {next : Nat}
    (shut : ∀ earlier, .opened earlier ∈ calls → ∃ outcome, .shut earlier outcome ∈ calls) :
    Alone (calls ++ [.opened next]) := by
  intro before link after split
  rcases List.eq_nil_or_concat after with rfl | ⟨after, last, rfl⟩
  · obtain ⟨rfl, -⟩ := List.append_inj' split rfl
    exact shut
  · rw [List.concat_eq_append, ← List.cons_append, ← List.append_assoc] at split
    obtain ⟨rfl, -⟩ := List.append_inj' split rfl
    exact alone before link after rfl

end Alone

/-- A link whose life is over was given up. -/
theorem Life.shut_mem {handshake : Bool} {callers : Bytes → Prop} {link : Nat} {calls : List Call}
    (life : Life handshake callers link none calls) : ∃ outcome, .shut link outcome ∈ calls := by
  obtain _ | ⟨_, outcome⟩ := life
  exact ⟨outcome, by simp⟩

/-- Without a link, all links have been given up. -/
theorem Lives.shut_of_opened {handshake : Bool} {callers : Bytes → Prop} {calls : List Call}
    (lives : Lives handshake callers ⟨none, calls⟩) (link : Nat) (opened : .opened link ∈ calls) :
    ∃ outcome, .shut link outcome ∈ calls := by
  obtain ⟨outcome, member⟩ := (lives.life link (lives.opened _ opened link rfl)).shut_mem
  exact ⟨outcome, (List.mem_filter.1 member).1⟩

/-- **At most one link is open at any time.** -/
theorem Entries.alone {handshake : Bool} {callers : Bytes → Prop} {account : Account}
    (entries : Entries handshake callers .fresh account) : Alone account.calls := by
  induction entries with
  | refl =>
    intro before link after split
    exact absurd split.symm (by simp [Account.fresh])
  | tail entries entry ih =>
    have lives := Lives.of_entries entries
    have quiet {link : Nat} {calls : List Call} (onLink : OnLink link calls) :
        ∀ call ∈ calls, call.opens = false := fun call member => (onLink call member).2
    cases entry with
    | refused fault => exact ih.append fun call member => by rw [List.mem_singleton.1 member]; rfl
    | unregistered _ denied outcome =>
      rw [← List.singleton_append, ← List.append_assoc]
      exact (ih.append_opened lives.shut_of_opened).append
        (quiet (denied.onLink.append (.shut _ _)))
    | opened beginning =>
      rw [← List.singleton_append, ← List.append_assoc]
      exact (ih.append_opened lives.shut_of_opened).append (quiet beginning.onLink)
    | used inUse => exact ih.append (quiet (InUse.onLink inUse))
    | closed ending outcome => exact ih.append (quiet (ending.onLink.append (.shut _ _)))

end Enip
