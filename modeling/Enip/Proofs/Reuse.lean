import Enip.Proofs.Teardown

/-!
# The buffer between operations

One buffer serves every frame of a connection: the request for a session, the requests of callers,
their replies, and the end of the session. What an operation leaves in it, be it half a request, a
reply cut short or the beginning of one that was too large, is there when the next one begins, and
comes to nothing (`Client.serve_reused`).

A client does the same on two connections that differ in their buffers, since nothing of a buffer is
looked at before it is cleared. This is the simulation of a client by itself (`Client.rerun`). It
carries along what no call changes for the worse, a `Client.Invariant` of the device; one of them is
that whatever receivers were shown was blank (`Blank`), so that bytes which they claim and did not
write are zeros, and never those of an earlier frame.
-/

namespace Enip

variable {ℓ δ : Type}

/-! ## Invariants -/

/-- What holds of a device after each call that a connection makes, if it held before. -/
structure Client.Invariant (client : Client ℓ δ) (holds : δ → Prop) : Prop where
  dial {device : δ} (before : holds device) :
    holds (client.binding.dial client.settings device).2
  send {device : δ} (handle : ℓ) (frame : Bytes) (before : holds device) :
    holds (client.binding.send handle frame device).2
  /-- It holds after a receive into blank space. -/
  receive {device : δ} {size : Nat} (handle : ℓ) (some : size ≠ 0) (before : holds device) :
    holds (client.binding.receive handle (List.replicate size 0) device).2
  shutdown {device : δ} (handle : ℓ) (before : holds device) :
    holds (client.binding.shutdown handle device).2

/-- A client does the same twice, whatever buffers and logs hold, and keeps an invariant. -/
def Client.rerun (client : Client ℓ δ) {holds : δ → Prop} (invariant : client.Invariant holds) :
    Simulation client client where
  links := Eq
  devices device device' := device = device' ∧ holds device
  settings := rfl
  backoff := rfl
  handshake := rfl
  dial := by
    rintro device _ ⟨rfl, before⟩
    have after := invariant.dial before
    rcases dialled : client.binding.dial client.settings device with ⟨fault | handle, next⟩
    all_goals rw [dialled] at after
    · exact .error ⟨rfl, after⟩
    · exact .ok rfl ⟨rfl, after⟩
  send := by
    rintro handle _ device _ frame rfl ⟨rfl, before⟩
    exact ⟨rfl, rfl, invariant.send handle frame before⟩
  receive := by
    rintro handle _ device _ size some rfl ⟨rfl, before⟩
    exact ⟨rfl, rfl, invariant.receive handle some before⟩
  shutdown := by
    rintro handle _ device _ rfl ⟨rfl, before⟩
    exact ⟨rfl, invariant.shutdown handle before⟩

/-- Whatever was shown to receivers was blank. -/
def Blank (calls : List Call) : Prop :=
  ∀ link reception, .received link reception ∈ calls →
    ∃ size, size ≠ 0 ∧ reception.space = List.replicate size 0

/-- Receivers are shown nothing but blank space. -/
theorem Client.blank (client : Client ℓ δ) :
    client.watched.Invariant fun world => Blank world.calls where
  dial {world} before := by
    dsimp only [watched, Binding.watched]
    split
    all_goals
      intro link reception member
      exact before link reception (by simpa using member)
  send {world} handle frame before := by
    intro link reception member
    exact before link reception (by simpa [watched, Binding.watched] using member)
  receive {world} size handle some before := by
    intro link reception member
    rcases List.mem_append.1 member with earlier | last
    · exact before link reception earlier
    · obtain ⟨-, rfl⟩ := Call.received.inj (List.mem_singleton.1 last)
      exact ⟨size, some, rfl⟩
  shutdown {world} handle before := by
    intro link reception member
    exact before link reception (by simpa [watched, Binding.watched] using member)

/-! ## Two connections that differ in their buffers -/

/-- Connections that differ in their buffers alone are related by a rerun. -/
theorem Client.rerun_related (client : Client ℓ δ) {holds : δ → Prop}
    (invariant : client.Invariant holds) (connection : Connection ℓ δ) (left : FrameBuffer)
    (before : holds connection.device) :
    (client.rerun invariant).Related { connection with buffer := left } connection := by
  refine ⟨?_, rfl, rfl, rfl, rfl, before⟩
  cases connection.link with
  | none => exact .none
  | some handle => exact .some rfl

variable {α ρ : Type} [Request α ρ]

/-- The calls made on watched links, from a connection as it is to the very end. -/
def Client.calls (client : Client ℓ δ) (caller : Caller α ρ) (count : Nat)
    (connection : Connection ℓ δ) : List Call :=
  (client.watched.finish
    (client.watched.serve caller count [] connection.watched).2).device.calls

/-- **Nothing in the buffer goes from one operation to the next.** Two connections may differ in
what an earlier operation has left in their buffers: every caller has the same reports of both,
whatever it makes of them, and is told the same afterwards; the same calls are made, with the same
bytes and the same answers, to the very end; and the space that receivers are shown is always blank,
so that claiming more than they wrote brings them zeros. -/
theorem Client.serve_reused (client : Client ℓ δ) (caller : Caller α ρ) (count : Nat)
    (connection : Connection ℓ δ) (left : FrameBuffer) :
    let reused : Connection ℓ δ := { connection with buffer := left }
    let run := client.serve caller count [] connection
    let rerun := client.serve caller count [] reused
    rerun.1 = run.1 ∧
    (rerun.2.link = run.2.link ∧ rerun.2.isOpen = run.2.isOpen ∧
      rerun.2.session = run.2.session ∧ rerun.2.drawn = run.2.drawn ∧
      rerun.2.device = run.2.device ∧
      (client.finish rerun.2).device = (client.finish run.2).device) ∧
    client.calls caller count reused = client.calls caller count connection ∧
    (∀ link reception, .received link reception ∈ client.calls caller count connection →
      ∃ size, reception.space = List.replicate size 0) ∧
    ∀ start : Connection ℓ δ,
      (client.watched.serve caller count [] start.watched).1 =
        (client.serve caller count [] start).1 ∧
      (client.watched.finish
        (client.watched.serve caller count [] start.watched).2).device.device =
        (client.finish (client.serve caller count [] start).2).device := by
  intro reused run rerun
  have anything : client.Invariant fun _ => True :=
    ⟨fun _ => trivial, fun _ _ _ => trivial, fun _ _ _ => trivial, fun _ _ => trivial⟩
  obtain ⟨reports, final⟩ := Simulation.serve_agree caller count []
    (client.rerun_related anything connection left trivial)
  have started : Blank connection.watched.device.calls := by
    intro link reception member
    simp [Connection.watched] at member
  have watched := Simulation.finish_related (Simulation.serve_agree caller count []
    (client.watched.rerun_related client.blank connection.watched left started)).2
  have link : rerun.2.link = run.2.link := final.link_eq fun _ _ same => same
  refine ⟨reports, ⟨link, final.isOpen, final.session, final.drawn, final.device.1,
    (Simulation.finish_related final).device.1⟩, congrArg Watched.calls watched.device.1, ?_, ?_⟩
  · intro link reception member
    rw [Client.calls, ← watched.device.1] at member
    obtain ⟨size, -, blank⟩ := watched.device.2 link reception member
    exact ⟨size, blank⟩
  · intro start
    obtain ⟨same, related⟩ := Simulation.serve_agree caller count [] (start.watched_related client)
    exact ⟨same, (Simulation.finish_related related).device⟩

end Enip
