import Enip.Proofs.Entries

/-!
# What callers are told of the link

Whether a link is open and which session it has are kept beside the link and written apart from it.
After every run, however its operations ended, the three agree: a link is said to be open if and
only if one is held, and the session is the one that was registered on that very link, or zero
(`Client.run_registered`). The run of the watched client is the same run (`Client.watched_run`); it
is there to tell one link from another, and to tell what was received on each.
-/

namespace Enip

/-- The session was registered on the link: it was asked for before anything else was sent, and is
read from the frame that was received next. -/
def RegisteredOn (link : Nat) (session : SessionId) (calls : List Call) : Prop :=
  ∃ receptions later, callsOn link calls = .opened link ::
      .sent link RegisterSession.bytes (.ok ()) :: (receptions.map (.received link) ++ later) ∧
    RegisterSession.decode (brought receptions) = .ok session

/-- A link that is held has a session that was registered on it. -/
theorem Life.registeredOn {callers : Bytes → Prop} {link : Nat} {session : SessionId}
    {calls : List Call} (life : Life true callers link (some session) (callsOn link calls)) :
    RegisteredOn link session calls := by
  generalize own : callsOn link calls = mine at life
  obtain ⟨beginning, -⟩ := life
  obtain plain | ⟨-, granted⟩ := beginning
  · cases plain
  · obtain _ | _ | decoded := granted
    exact ⟨_, _, own, decoded⟩

namespace Connection.Honest

variable {ℓ ℓ' δ δ' : Type} {handshake : Bool} {connection : Connection ℓ δ}
  {connection' : Connection ℓ' δ'}

theorem open_iff (honest : connection.Honest handshake) :
    connection.isOpen = true ↔ ∃ handle, connection.link = some handle := by
  rw [honest.isOpen, Option.isSome_iff_exists]

theorem session_iff (honest : connection.Honest handshake) :
    connection.session ≠ 0 ↔ handshake = true ∧ ∃ handle, connection.link = some handle := by
  rw [honest.session, Option.isSome_iff_exists]

/-- What is true of one connection is true of another that callers cannot tell from it. -/
theorem of_related {client : Client ℓ δ} {other : Client ℓ' δ'}
    {simulation : Simulation client other} (honest : connection.Honest handshake)
    (related : simulation.Related connection connection') : connection'.Honest handshake := by
  have same : connection.link.isSome = connection'.link.isSome := by
    rcases related.link_cases with ⟨none, none'⟩ | ⟨handle, handle', held, held', -⟩
    · rw [none, none']
      rfl
    · rw [held, held']
      rfl
  refine ⟨?_, ?_⟩
  · rw [← related.isOpen, honest.isOpen, same]
  · rw [← related.session, ← same]
    exact honest.session

end Connection.Honest

namespace Client

variable {ℓ δ α ρ : Type} [Request α ρ] (client : Client ℓ δ) (device : δ)

/-- **What callers are told of the link is true.** After any run a link is said to be open if and
only if one is held; with a handshake there is a session if and only if a link is held, and it is
the session that was registered on that link and stays for as long as the link is held; without a
handshake there is never a session. -/
theorem run_registered (operations : List (Operation α)) :
    let connection := client.run operations (.start device)
    let watched := client.watched.run operations (.start (.fresh device))
    watched.device.device = connection.device ∧
    (connection.isOpen = true ↔ ∃ handle, connection.link = some handle) ∧
    (client.binding.handshake = true →
      (connection.session ≠ 0 ↔ ∃ handle, connection.link = some handle) ∧
      ∀ handle, connection.link = some handle → ∃ link, watched.link = some (link, handle) ∧
        RegisteredOn link connection.session watched.device.calls ∧
        ∀ (later : List (Operation α)) (handle' : ℓ),
          (client.watched.run later watched).link = some (link, handle') →
          (client.run later connection).session = connection.session) ∧
    (client.binding.handshake = false → connection.session = 0) := by
  intro connection watched
  have kept : client.Keeps (fun _ => True) (.start (Watched.fresh device)) watched :=
    client.run_keeps operations (fun _ _ _ _ => trivial) (.start _)
  have related : client.watching.Related watched connection := client.watched_run operations device
  have honest : connection.Honest client.binding.handshake := kept.honest.of_related related
  refine ⟨related.device, honest.open_iff, fun handshake => ⟨?_, fun handle held => ?_⟩,
    fun plain => ?_⟩
  · rw [honest.session_iff]
    exact and_iff_right handshake
  · obtain ⟨none, none'⟩ | ⟨⟨link, _⟩, _, numbered, held', rfl⟩ := related.link_cases
    · rw [held] at none'
      cases none'
    · cases held.symm.trans held'
      have account := Connection.account_of_link numbered
      have lives := Lives.of_entries kept.entries
      refine ⟨link, numbered, ?_, fun later handle' still => ?_⟩
      · rw [account, handshake, related.session] at lives
        exact lives.life_held.registeredOn
      · have after := client.watching.run_related later related
        have more : client.Keeps (fun _ => True) watched _ :=
          client.run_keeps later (fun _ _ _ _ => trivial) kept.honest
        rw [← after.session, ← related.session]
        exact more.entries.session_eq lives (congrArg Account.held account)
          (congrArg Account.held (Connection.account_of_link still))
  · refine Classical.byContradiction fun nonzero => ?_
    have handshake := (honest.session_iff.1 nonzero).1
    rw [plain] at handshake
    cases handshake

end Client

end Enip
