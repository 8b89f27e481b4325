import Enip.Proofs.Entries

/-!
# Links and sessions are balanced

All calls of a run, up to and including the last thing that is done with the connection, are
`Balanced`: links are opened one after the other, each is given up once and not used afterwards,
and each session that was registered on one is ended on it, once, just before
(`Client.run_balanced`). That is read off the ledger, in which no link is held in the end.
-/

namespace Enip

/-- Whether the call sends or receives something. -/
def Call.exchanges : Call → Bool
  | sent _ _ _ | received _ _ => true
  | _ => false

/-- The calls of a whole run, from the first to the last. -/
structure Balanced (handshake : Bool) (callers : Bytes → Prop) (calls : List Call) : Prop where
  alone : Alone calls
  /-- Nothing is done on a link that was not opened. -/
  opened : ∀ call ∈ calls, ∀ link, call.link? = some link → .opened link ∈ calls
  /-- A link is opened once and given up once, and in between it is used as a link is to be used. -/
  finished : ∀ link, .opened link ∈ calls → ∃ mine outcome,
    callsOn link calls = .opened link :: (mine ++ [.shut link outcome]) ∧
    (∀ call ∈ mine, call.exchanges = true) ∧ Finished handshake callers link mine

theorem Registration.exchanges {link : Nat} {session : Option SessionId} {calls : List Call}
    (registration : Registration link session calls) : ∀ call ∈ calls, call.exchanges = true := by
  intro call member
  rcases registration.call_cases member with ⟨outcome, rfl⟩ | ⟨reception, rfl⟩
  · rfl
  · rfl

theorem InUse.exchanges {callers : Bytes → Prop} {link : Nat} {call : Call}
    (inUse : InUse callers link call) : call.exchanges = true := by
  cases inUse <;> rfl

theorem Finished.exchanges {handshake : Bool} {callers : Bytes → Prop} {link : Nat}
    {calls : List Call} (finished : Finished handshake callers link calls) :
    ∀ call ∈ calls, call.exchanges = true := by
  intro call member
  cases finished with
  | plain _ inUse => exact (inUse call member).exchanges
  | unregistered _ denied => exact denied.exchanges call member
  | registered _ granted inUse outcome =>
    rcases List.mem_append.1 member with first | later
    · exact granted.exchanges call first
    · rcases List.mem_append.1 later with used | last
      · exact (inUse call used).exchanges
      · rw [List.mem_singleton.1 last]
        rfl

/-- A ledger in which no link is held is balanced. -/
theorem Entries.balanced {handshake : Bool} {callers : Bytes → Prop} {account : Account}
    (entries : Entries handshake callers .fresh account) (unlinked : account.held = none) :
    Balanced handshake callers account.calls := by
  have lives := Lives.of_entries entries
  have ended (link : Nat) (opened : link < links account.calls) :
      Life handshake callers link none (callsOn link account.calls) := by
    have life := lives.life link opened
    rwa [Account.session?, unlinked] at life
  refine ⟨entries.alone, ?_, ?_⟩
  · intro call member link named
    have life := ended link (lives.opened call member link named)
    have first : .opened link ∈ callsOn link account.calls := by
      generalize callsOn link account.calls = mine at life
      cases life
      exact List.mem_cons_self
    exact (List.mem_filter.1 first).1
  · intro link member
    have life := ended link (lives.opened _ member link rfl)
    generalize callsOn link account.calls = calls at life
    obtain _ | ⟨finished, outcome⟩ := life
    exact ⟨_, outcome, rfl, finished.exchanges, finished⟩

namespace Client

variable {ℓ δ α ρ : Type} [Request α ρ] (client : Client ℓ δ) (device : δ)

/-- **Links and sessions are balanced over whole runs.** -/
theorem run_balanced (operations : List (Operation α)) :
    let watched := client.watched.run operations (.start (.fresh device))
    (client.watched.finish watched).device.device =
      (client.finish (client.run operations (.start device))).device ∧
    Balanced client.binding.handshake
      (fun frame => ∃ operation ∈ operations, operation.Frames frame)
      (client.watched.finish watched).device.calls ∧
    (watched.isOpen = false → (client.watched.close watched).device = watched.device) := by
  intro watched
  have kept : client.Keeps (fun frame => ∃ operation ∈ operations, operation.Frames frame)
      (.start (Watched.fresh device)) watched :=
    client.run_keeps operations
      (fun operation member _ written => ⟨operation, member, written⟩) (.start _)
  obtain ⟨finished, unlinked⟩ := client.finish_keeps kept.honest
  refine ⟨?_, ?_, fun shut => ?_⟩
  · exact (Simulation.finish_related (client.watched_run operations device)).device
  · exact (kept.trans finished).entries.balanced (by rw [Connection.account_of_none unlinked])
  · have none : watched.link = none := by
      rw [← Option.isNone_iff_eq_none, ← Option.not_isSome, ← kept.honest.isOpen, shut]
      rfl
    rw [client.watched.close_of_none none]
    rfl

end Client

end Enip
