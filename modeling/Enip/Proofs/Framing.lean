import Enip.Connection.Operation

/-!
# Frames, from the calls that carry them

What sending and receiving a frame do to a connection, told by the calls on the link.

* `Fills` is the receiving loop without a device: how a list of receptions, each with the space it
  was shown, fills a buffer, and how the loop ends. `Receives` is the device without the loop.
  `fillFrame_spec` takes every run of the loop apart into the two.
* `Fills.eq_gather`, `Fills.le_size` and `Fills.size_lt` say what the buffer holds in the end: the
  bytes of all receptions put together, enough of them for a frame or not.
* `transmit_of_unwritten`, `transmit_of_written` and `receive_spec` describe the two halves of an
  exchange. Neither touches the link, or what callers are told of it (`Connection.SameLink`).
-/

namespace Enip

/-- A receive: the space it was shown, and what came of it. -/
structure Reception where
  space : Bytes
  outcome : Except LinkError Delivery

namespace FrameBuffer

/-- The buffer with the part of a delivery that there is space for. -/
def extended (buffer : FrameBuffer) (delivery : Delivery) : FrameBuffer :=
  buffer.accept (.ok delivery : Except LinkError Delivery)

/-- The buffer after receptions. -/
def gather (buffer : FrameBuffer) (receptions : List Reception) : FrameBuffer :=
  receptions.foldl (fun buffer reception => buffer.accept reception.outcome) buffer

theorem ext_bytes {buffer other : FrameBuffer} (same : buffer.bytes = other.bytes) :
    buffer = other := by
  cases buffer; cases other; simp_all

theorem size_of_bytes_append {buffer longer : FrameBuffer} {more : Bytes}
    (bytes : longer.bytes = buffer.bytes ++ more) : longer.size = buffer.size + more.length := by
  rw [size, bytes, List.length_append, size]

theorem extended_of_claimed_eq_zero {buffer : FrameBuffer} {delivery : Delivery}
    (none : delivery.claimed = 0) : buffer.extended delivery = buffer :=
  ext_bytes (by simp [extended, accept, none])

/-- A receiver that tells the truth, and keeps to the space, adds what it wrote. -/
theorem bytes_extended {buffer : FrameBuffer} {bytes : Bytes} (room : bytes.length ≤ buffer.spare) :
    (buffer.extended ⟨bytes, bytes.length⟩).bytes = buffer.bytes ++ bytes := by
  have whole : bytes.take buffer.spare = bytes := List.take_of_length_le room
  simp [extended, accept, overwrite, whole]

section Fill

variable {ℓ δ : Type} {binding : Binding ℓ δ} {handle : ℓ} {buffer longer : FrameBuffer}
  {device after : δ}

theorem fill_of_error {fault : LinkError}
    (received : binding.receive handle buffer.space device = (.error fault, after)) :
    buffer.fill (binding.receiver handle) device = (.error fault, buffer, after) := by
  simp only [fill_eq, Binding.receiver, received]
  rfl

theorem fill_of_ok {delivery : Delivery}
    (received : binding.receive handle buffer.space device = (.ok delivery, after)) :
    buffer.fill (binding.receiver handle) device =
      (.ok delivery.claimed, buffer.extended delivery, after) := by
  simp only [fill_eq, Binding.receiver, received]
  rfl

/-- A receive that fails adds nothing. -/
theorem of_fill_error {fault : LinkError}
    (filled : buffer.fill (binding.receiver handle) device = (.error fault, longer, after)) :
    binding.receive handle buffer.space device = (.error fault, after) ∧ longer = buffer := by
  rcases received : binding.receive handle buffer.space device with ⟨failure | delivery, next⟩
  · rw [fill_of_error received] at filled
    cases filled
    exact ⟨rfl, rfl⟩
  · rw [fill_of_ok received] at filled
    cases filled

/-- A receive that does not fail adds its delivery. -/
theorem of_fill_ok {claimed : Nat}
    (filled : buffer.fill (binding.receiver handle) device = (.ok claimed, longer, after)) :
    ∃ delivery, binding.receive handle buffer.space device = (.ok delivery, after) ∧
      delivery.claimed = claimed ∧ longer = buffer.extended delivery := by
  rcases received : binding.receive handle buffer.space device with ⟨failure | delivery, next⟩
  · rw [fill_of_error received] at filled
    cases filled
  · rw [fill_of_ok received] at filled
    cases filled
    exact ⟨delivery, rfl, rfl, rfl⟩

end Fill

end FrameBuffer

/-! ## The receiving loop -/

/-- `Fills replySize buffer receptions result longer`: by these receptions the loop that receives a
frame takes `buffer` to `longer` and ends with `result`. -/
inductive Fills (replySize : Bytes → Nat) :
    FrameBuffer → List Reception → Except Error Unit → FrameBuffer → Prop
  | full {buffer : FrameBuffer} (full : buffer.spare = 0) :
    Fills replySize buffer []
      (.error (.frame (.replyTooLarge (replySize buffer.bytes) FrameBuffer.capacity))) buffer
  | fault {buffer : FrameBuffer} (room : buffer.spare ≠ 0) (fault : LinkError) :
    Fills replySize buffer [⟨buffer.space, .error fault⟩] (.error (.link fault)) buffer
  /-- The device has closed the link. -/
  | ended {buffer : FrameBuffer} (room : buffer.spare ≠ 0) {delivery : Delivery}
    (none : delivery.claimed = 0) :
    Fills replySize buffer [⟨buffer.space, .ok delivery⟩]
      (.error (.link (.endOfStream buffer.size (replySize buffer.bytes)))) buffer
  | whole {buffer : FrameBuffer} (room : buffer.spare ≠ 0) {delivery : Delivery}
    (some : delivery.claimed ≠ 0)
    (enough : replySize (buffer.extended delivery).bytes ≤ (buffer.extended delivery).size) :
    Fills replySize buffer [⟨buffer.space, .ok delivery⟩] (.ok ()) (buffer.extended delivery)
  | more {buffer longer : FrameBuffer} {receptions : List Reception} {result : Except Error Unit}
    (room : buffer.spare ≠ 0) {delivery : Delivery} (some : delivery.claimed ≠ 0)
    (short : (buffer.extended delivery).size < replySize (buffer.extended delivery).bytes)
    (rest : Fills replySize (buffer.extended delivery) receptions result longer) :
    Fills replySize buffer (⟨buffer.space, .ok delivery⟩ :: receptions) result longer

/-- `Receives binding handle device receptions after`: the device answers these receives on a link,
one after the other, and is then in the state `after`. -/
inductive Receives {ℓ δ : Type} (binding : Binding ℓ δ) (handle : ℓ) :
    δ → List Reception → δ → Prop
  | nil {device : δ} : Receives binding handle device [] device
  | cons {device next after : δ} {space : Bytes} {outcome : Except LinkError Delivery}
    {receptions : List Reception}
    (first : binding.receive handle space device = (outcome, next))
    (rest : Receives binding handle next receptions after) :
    Receives binding handle device (⟨space, outcome⟩ :: receptions) after

namespace Fills

variable {replySize : Bytes → Nat} {buffer longer : FrameBuffer} {receptions : List Reception}
  {result : Except Error Unit}

/-- In the end the buffer holds what all receptions brought, whether or not that is a frame. -/
theorem eq_gather (fills : Fills replySize buffer receptions result longer) :
    longer = buffer.gather receptions := by
  induction fills with
  | full _ => rfl
  | fault _ _ => rfl
  | ended _ none => exact (FrameBuffer.extended_of_claimed_eq_zero none).symm
  | whole _ _ _ => rfl
  | more _ _ _ _ ih => exact ih

/-- If the loop ends well, there are as many bytes as there have to be. -/
theorem le_size (fills : Fills replySize buffer receptions (.ok ()) longer) :
    replySize longer.bytes ≤ longer.size := by
  generalize ended : (.ok () : Except Error Unit) = result at fills
  induction fills with
  | full _ => cases ended
  | fault _ _ => cases ended
  | ended _ _ => cases ended
  | whole _ _ enough => exact enough
  | more _ _ _ _ ih => exact ih ended

/-- If the loop fails, there are not. -/
theorem size_lt {error : Error} (fills : Fills replySize buffer receptions (.error error) longer)
    (short : buffer.size < replySize buffer.bytes) : longer.size < replySize longer.bytes := by
  generalize ended : (.error error : Except Error Unit) = result at fills
  induction fills with
  | full _ => exact short
  | fault _ _ => exact short
  | ended _ _ => exact short
  | whole _ _ _ => cases ended
  | more _ _ stillShort _ ih => exact ih stillShort ended

/-- The loop fails with a fault of the link, or for want of space. -/
theorem error_cases {error : Error}
    (fills : Fills replySize buffer receptions (.error error) longer) :
    (∃ fault, error = .link fault) ∨
      ∃ size capacity, error = .frame (.replyTooLarge size capacity) := by
  generalize ended : (.error error : Except Error Unit) = result at fills
  induction fills with
  | full _ => exact .inr ⟨_, _, Except.error.inj ended⟩
  | fault _ _ => exact .inl ⟨_, Except.error.inj ended⟩
  | ended _ _ => exact .inl ⟨_, Except.error.inj ended⟩
  | whole _ _ _ => cases ended
  | more _ _ _ _ ih => exact ih ended

/-- What a receiver is shown is blank, and never empty. -/
theorem space_eq (fills : Fills replySize buffer receptions result longer) :
    ∀ reception ∈ receptions, ∃ size, size ≠ 0 ∧ reception.space = List.replicate size 0 := by
  induction fills with
  | full _ => exact List.forall_mem_nil _
  | fault room _ | ended room _ | whole room _ _ => exact List.forall_mem_singleton.2 ⟨_, room, rfl⟩
  | more room _ _ _ ih => exact List.forall_mem_cons.2 ⟨⟨_, room, rfl⟩, ih⟩

end Fills

section Loop

variable {ℓ δ : Type} (binding : Binding ℓ δ) (handle : ℓ)

/-- **Every run of the receiving loop is a list of receives that the device answers.** -/
theorem fillFrame_spec (replySize : Bytes → Nat) (buffer : FrameBuffer) (device : δ) :
    ∃ receptions, Fills replySize buffer receptions
        (fillFrame binding handle replySize buffer device).1
        (fillFrame binding handle replySize buffer device).2.1 ∧
      Receives binding handle device receptions
        (fillFrame binding handle replySize buffer device).2.2 := by
  fun_induction fillFrame binding handle replySize buffer device with
  | case1 buffer device full => exact ⟨[], .full full, .nil⟩
  | case2 buffer device room fault longer after filled =>
    obtain ⟨received, rfl⟩ := FrameBuffer.of_fill_error filled
    exact ⟨_, .fault room fault, .cons received .nil⟩
  | case3 buffer device room longer after filled =>
    obtain ⟨delivery, received, none, rfl⟩ := FrameBuffer.of_fill_ok filled
    rw [FrameBuffer.extended_of_claimed_eq_zero none]
    exact ⟨_, .ended room none, .cons received .nil⟩
  | case4 buffer device room claimed longer after filled some enough =>
    obtain ⟨delivery, received, rfl, rfl⟩ := FrameBuffer.of_fill_ok filled
    exact ⟨_, .whole room some enough, .cons received .nil⟩
  | case5 buffer device room claimed longer after filled some short ih =>
    obtain ⟨delivery, received, rfl, rfl⟩ := FrameBuffer.of_fill_ok filled
    obtain ⟨receptions, fills, receives⟩ := ih
    exact ⟨_, .more room some (Nat.lt_of_not_le short) fills, .cons received receives⟩

variable {binding handle}

theorem fillFrame_of_error {replySize : Bytes → Nat} {buffer : FrameBuffer} {device next : δ}
    {fault : LinkError} (room : buffer.spare ≠ 0)
    (received : binding.receive handle buffer.space device = (.error fault, next)) :
    fillFrame binding handle replySize buffer device =
      (.error (.link fault), buffer, next) := by
  have filled := FrameBuffer.fill_of_error received
  rw [fillFrame, if_neg room]
  split <;> rename_i filled'
  all_goals
    rw [filled] at filled'
    cases filled'
  rfl

theorem fillFrame_of_ok {replySize : Bytes → Nat} {buffer : FrameBuffer} {device next : δ}
    {delivery : Delivery} (room : buffer.spare ≠ 0)
    (received : binding.receive handle buffer.space device = (.ok delivery, next)) :
    fillFrame binding handle replySize buffer device =
      let longer := buffer.extended delivery
      if delivery.claimed = 0 then
        (.error (.link (.endOfStream longer.size (replySize longer.bytes))), longer, next)
      else if replySize longer.bytes ≤ longer.size then (.ok (), longer, next)
      else fillFrame binding handle replySize longer next := by
  have filled := FrameBuffer.fill_of_ok received
  rw [fillFrame, if_neg room]
  split <;> rename_i filled'
  all_goals
    rw [filled] at filled'
    cases filled'
  rfl

/-- The receives decide the run: one that can be put together from them is the run there is. -/
theorem Fills.fillFrame_eq {replySize : Bytes → Nat} {buffer longer : FrameBuffer}
    {receptions : List Reception} {result : Except Error Unit} {device after : δ}
    (fills : Fills replySize buffer receptions result longer)
    (receives : Receives binding handle device receptions after) :
    fillFrame binding handle replySize buffer device = (result, longer, after) := by
  induction fills generalizing device with
  | full full =>
    cases receives
    rw [fillFrame, if_pos full]
  | fault room fault =>
    rcases receives with _ | ⟨first, ⟨⟩⟩
    rw [fillFrame_of_error room first]
  | ended room none =>
    rcases receives with _ | ⟨first, ⟨⟩⟩
    simp only [fillFrame_of_ok room first, if_pos none,
      FrameBuffer.extended_of_claimed_eq_zero none]
  | whole room some enough =>
    rcases receives with _ | ⟨first, ⟨⟩⟩
    simp only [fillFrame_of_ok room first, if_neg some, if_pos enough]
  | more room some short _ ih =>
    rcases receives with _ | ⟨first, rest⟩
    simp only [fillFrame_of_ok room first, if_neg some, if_neg (Nat.not_le_of_lt short), ih rest]

end Loop

/-! ## The two halves of an exchange -/

/-- A connection holds the link that it held, and callers are told of it what they were told. -/
structure Connection.SameLink {ℓ δ : Type} (before after : Connection ℓ δ) : Prop where
  link : after.link = before.link
  isOpen : after.isOpen = before.isOpen
  session : after.session = before.session

namespace Connection.SameLink

variable {ℓ δ : Type} {first second third : Connection ℓ δ}

@[refl] theorem refl (connection : Connection ℓ δ) : connection.SameLink connection :=
  ⟨rfl, rfl, rfl⟩

theorem trans (h₁ : first.SameLink second) (h₂ : second.SameLink third) : first.SameLink third :=
  ⟨h₂.link.trans h₁.link, h₂.isOpen.trans h₁.isOpen, h₂.session.trans h₁.session⟩

end Connection.SameLink

/-- The frame that a request is written as, or why it is not written. -/
def Request.frame {α ρ : Type} [Request α ρ] (request : α) : Except FrameError Bytes :=
  match Request.encode request .empty with
  | (.error fault, _) => .error fault
  | (.ok (), buffer) => .ok buffer.bytes

namespace Client

variable {ℓ δ α ρ : Type} [Request α ρ] (client : Client ℓ δ) (handle : ℓ) (request : α)
  (connection : Connection ℓ δ)

theorem transmit_sameLink : connection.SameLink (client.transmit handle request connection).2 := by
  unfold transmit
  split
  · exact ⟨rfl, rfl, rfl⟩
  · dsimp only
    split <;> exact ⟨rfl, rfl, rfl⟩

/-- What cannot be written is not sent. -/
theorem transmit_of_unwritten {fault : FrameError}
    (unwritten : Request.frame request = .error fault) :
    (client.transmit handle request connection).1 = .error (.frame fault) ∧
      (client.transmit handle request connection).2.device = connection.device := by
  rcases encoded : Request.encode request .empty with ⟨error | ⟨⟩, buffer⟩
  all_goals rw [Request.frame, encoded] at unwritten
  · cases unwritten
    rw [transmit, FrameBuffer.clear, encoded]
    exact ⟨rfl, rfl⟩
  · cases unwritten

/-- What is written is sent in one piece, once. -/
theorem transmit_of_written {frame : Bytes} (written : Request.frame request = .ok frame) :
    (client.transmit handle request connection).1 =
        (client.binding.send handle frame connection.device).1.mapError .link ∧
      (client.transmit handle request connection).2.device =
        (client.binding.send handle frame connection.device).2 := by
  rcases encoded : Request.encode request .empty with ⟨error | ⟨⟩, buffer⟩
  all_goals rw [Request.frame, encoded] at written
  · cases written
  · cases written
    rw [transmit, FrameBuffer.clear, encoded]
    dsimp only [Connection.note]
    rcases client.binding.send handle buffer.bytes connection.device with ⟨fault | ⟨⟩, device⟩
    · exact ⟨rfl, rfl⟩
    · exact ⟨rfl, rfl⟩

theorem receive_sameLink :
    connection.SameLink (client.receive handle request connection).2 := by
  unfold receive
  split <;> exact ⟨rfl, rfl, rfl⟩

theorem exchange_of_unsent {error : Error} {waiting : Connection ℓ δ}
    (unsent : client.transmit handle request connection = (.error error, waiting)) :
    client.exchange handle request connection = (.error error, waiting) := by
  rw [exchange, unsent]

theorem exchange_of_sent {waiting : Connection ℓ δ}
    (sent : client.transmit handle request connection = (.ok (), waiting)) :
    client.exchange handle request connection = client.receive handle request waiting := by
  rw [exchange, sent]

theorem exchange_sameLink :
    connection.SameLink (client.exchange handle request connection).2 := by
  have same := client.transmit_sameLink handle request connection
  rcases transmitted : client.transmit handle request connection with ⟨error | ⟨⟩, waiting⟩
  all_goals rw [transmitted] at same
  · rw [client.exchange_of_unsent handle request connection transmitted]
    exact same
  · rw [client.exchange_of_sent handle request connection transmitted]
    exact same.trans (client.receive_sameLink handle request waiting)

/-- Receiving a reply is one run of the loop, and then reading what is in the buffer. -/
theorem receive_of_fillFrame {filled : Except Error Unit} {longer : FrameBuffer} {device : δ}
    (run : fillFrame client.binding handle (Request.replySize request) .empty connection.device =
      (filled, longer, device)) :
    (client.receive handle request connection).1 =
        filled.bind (fun _ => (Request.decode request longer.bytes).mapError .frame) ∧
      (client.receive handle request connection).2.device = device := by
  unfold receive FrameBuffer.clear
  rw [run]
  rcases filled with error | ⟨⟩ <;> exact ⟨rfl, rfl⟩

/-- **Receiving a reply is a list of receives that the device answers.** -/
theorem receive_spec :
    ∃ receptions filled longer, Fills (Request.replySize request) .empty receptions filled longer ∧
      Receives client.binding handle connection.device receptions
        (client.receive handle request connection).2.device ∧
      (client.receive handle request connection).1 =
        filled.bind fun _ => (Request.decode request longer.bytes).mapError .frame := by
  obtain ⟨receptions, fills, receives⟩ := fillFrame_spec client.binding handle
    (Request.replySize request) .empty connection.device
  obtain ⟨result, device⟩ := client.receive_of_fillFrame handle request connection rfl
  exact ⟨receptions, _, _, fills, device ▸ receives, result⟩

end Client

end Enip
