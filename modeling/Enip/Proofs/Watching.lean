import Enip.Proofs.Simulation

/-!
# Watched links

Nothing in a binding says which link a call was made on, or which calls were made. A watched binding
numbers the links as they open and writes down every call with its result: a `Call` for each, in
order. It lets the device do what it would have done, so that a watched client does what the client
does (`Client.watched_run`).

`links` counts the links opened in a list of calls, which is the number of the next one, and
`callsOn` picks out the calls on one link.
-/

namespace Enip

/-- A call made to a device, and what came of it. Links are known by their numbers. -/
inductive Call where
  | opened (link : Nat)
  | refused (fault : LinkError)
  | sent (link : Nat) (frame : Bytes) (outcome : Except LinkError Unit)
  | received (link : Nat) (reception : Reception)
  | shut (link : Nat) (outcome : Except LinkError Unit)

namespace Call

/-- Whether the call opened a link. -/
def opens : Call → Bool
  | opened _ => true
  | _ => false

/-- The number of the link on which the call was made. -/
def link? : Call → Option Nat
  | opened link => some link
  | refused _ => none
  | sent link _ _ => some link
  | received link _ => some link
  | shut link _ => some link

end Call

/-- How many links were opened. -/
def links (calls : List Call) : Nat := calls.countP Call.opens

/-- The calls made on one link. -/
def callsOn (link : Nat) (calls : List Call) : List Call :=
  calls.filter fun call => call.link? = some link

@[simp] theorem links_append (first second : List Call) :
    links (first ++ second) = links first + links second :=
  List.countP_append

@[simp] theorem callsOn_append (link : Nat) (first second : List Call) :
    callsOn link (first ++ second) = callsOn link first ++ callsOn link second :=
  List.filter_append ..

/-- A device, and the calls that were made to it. -/
structure Watched (δ : Type) where
  calls : List Call
  device : δ

/-- A device to which no call was made. -/
def Watched.fresh {δ : Type} (device : δ) : Watched δ := ⟨[], device⟩

/-- The binding that numbers its links and writes down its calls. -/
def Binding.watched {ℓ δ : Type} (binding : Binding ℓ δ) : Binding (Nat × ℓ) (Watched δ) where
  handshake := binding.handshake
  dial settings world :=
    match binding.dial settings world.device with
    | (.error fault, device) => (.error fault, ⟨world.calls ++ [.refused fault], device⟩)
    | (.ok handle, device) =>
      (.ok (links world.calls, handle), ⟨world.calls ++ [.opened (links world.calls)], device⟩)
  send link frame world :=
    let (outcome, device) := binding.send link.2 frame world.device
    (outcome, ⟨world.calls ++ [.sent link.1 frame outcome], device⟩)
  receive link space world :=
    let (outcome, device) := binding.receive link.2 space world.device
    (outcome, ⟨world.calls ++ [.received link.1 ⟨space, outcome⟩], device⟩)
  shutdown link world :=
    let (outcome, device) := binding.shutdown link.2 world.device
    (outcome, ⟨world.calls ++ [.shut link.1 outcome], device⟩)

namespace Client

variable {ℓ δ α ρ : Type} [Request α ρ]

/-- The client over the watched binding. -/
def watched (client : Client ℓ δ) : Client (Nat × ℓ) (Watched δ) :=
  ⟨client.binding.watched, client.settings, client.backoff⟩

/-- A client does what the watched client does. -/
def watching (client : Client ℓ δ) : Simulation client.watched client where
  links numbered handle := numbered.2 = handle
  devices world device := world.device = device
  settings := rfl
  backoff := rfl
  handshake := rfl
  dial := by
    rintro world _ rfl
    dsimp only [watched, Binding.watched]
    split
    · rename_i dialled
      rw [dialled]
      exact .error rfl
    · rename_i dialled
      rw [dialled]
      exact .ok rfl rfl
  send := by
    rintro link _ world _ frame rfl rfl
    exact ⟨rfl, rfl⟩
  receive := by
    rintro link _ world _ size - rfl rfl
    exact ⟨rfl, rfl⟩
  shutdown := by
    rintro link _ world _ rfl rfl
    rfl

/-- **Watching changes nothing**: the runs of a client and of the watched client are alike. -/
theorem watched_run (client : Client ℓ δ) (operations : List (Operation α)) (device : δ) :
    client.watching.Related (client.watched.run operations (.start (.fresh device)))
      (client.run operations (.start device)) :=
  Simulation.run_related operations ⟨.none, rfl, rfl, rfl, rfl⟩

end Client

end Enip
