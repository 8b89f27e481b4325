import Enip.Proofs.Reassembly
import Enip.Proofs.Watching

/-!
# How the receiving loop ends

The receiving loop asks after every chunk how long the reply is, and the answer may be any: the size
may grow or shrink with what arrives, and there may be no number of bytes that is enough. The link
may claim to have written more than there was space for. All the same the loop ends, for each chunk
after which it goes on has taken some of the space (`FrameBuffer.spare_accept_lt`), and what it
then says of the buffer is so.

`Verdict` lists the four ends there are, with what holds of the buffer at each. One more chunk
before the others makes no difference to it (`Verdict.sooner`), so every run has one
(`Fills.verdict`, `fillFrame_verdict`). A fault that the link reports is handed on as it is, also
where it is an end of the stream that the link has found for itself (`fillFrame_end_handed_on`).
-/

namespace Enip

/-- The bytes in a buffer are too few for the reply. -/
def Short (replySize : Bytes → Nat) (buffer : FrameBuffer) : Prop :=
  buffer.size < replySize buffer.bytes

/-- `Verdict replySize start receptions buffer result`: by these receptions a loop that began with
`start` has ended with `result`, and it is right to do so with what is in `buffer`. -/
inductive Verdict (replySize : Bytes → Nat) (start : FrameBuffer) (receptions : List Reception)
    (buffer : FrameBuffer) : Except Error Unit → Prop
  | whole (came : start.size < buffer.size) (enough : replySize buffer.bytes ≤ buffer.size) :
    Verdict replySize start receptions buffer (.ok ())
  | tooLarge (full : buffer.size = FrameBuffer.capacity)
    (large : FrameBuffer.capacity < replySize buffer.bytes) :
    Verdict replySize start receptions buffer
      (.error (.frame (.replyTooLarge (replySize buffer.bytes) FrameBuffer.capacity)))
  /-- Nothing came with the last receive, and what came before is not enough, if anything did. -/
  | ended {earlier : List Reception} {space : Bytes} {delivery : Delivery}
    (last : receptions = earlier ++ [⟨space, .ok delivery⟩]) (none : delivery.claimed = 0)
    (short : buffer = start ∨ Short replySize buffer) :
    Verdict replySize start receptions buffer
      (.error (.link (.endOfStream buffer.size (replySize buffer.bytes))))
  /-- The last receive failed, and added nothing to what came before. -/
  | fault {earlier : List Reception} {space : Bytes} {fault : LinkError}
    (last : receptions = earlier ++ [⟨space, .error fault⟩])
    (same : buffer = start.gather earlier) :
    Verdict replySize start receptions buffer (.error (.link fault))

/-- One chunk more at the beginning, after which the loop goes on, changes nothing in a verdict. -/
theorem Verdict.sooner {replySize : Bytes → Nat} {start buffer : FrameBuffer}
    {receptions : List Reception} {result : Except Error Unit} {delivery : Delivery}
    (room : start.spare ≠ 0) (some : delivery.claimed ≠ 0)
    (short : Short replySize (start.extended delivery))
    (verdict : Verdict replySize (start.extended delivery) receptions buffer result) :
    Verdict replySize start (⟨start.space, .ok delivery⟩ :: receptions) buffer result := by
  cases verdict with
  | whole came enough =>
    exact .whole (Nat.lt_trans (FrameBuffer.size_lt_accept some room) came) enough
  | tooLarge full large => exact .tooLarge full large
  | ended last none few =>
    subst last
    refine .ended (List.cons_append ..).symm none (.inr ?_)
    rcases few with rfl | few
    · exact short
    · exact few
  | fault last same =>
    subst last
    exact .fault (List.cons_append ..).symm same

namespace Fills

variable {replySize : Bytes → Nat} {start buffer : FrameBuffer} {receptions : List Reception}
  {result : Except Error Unit}

/-- There are no more receives than there is space for bytes. -/
theorem length_le (fills : Fills replySize start receptions result buffer) :
    receptions.length ≤ start.spare := by
  induction fills with
  | full _ => exact Nat.zero_le _
  | fault room _ | ended room _ | whole room _ _ => exact Nat.pos_of_ne_zero room
  | more room some _ _ ih => exact Nat.lt_of_le_of_lt ih (FrameBuffer.spare_accept_lt some room)

/-- After every receive but the last there is too little. -/
theorem short_of_split (fills : Fills replySize start receptions result buffer)
    {earlier later : List Reception} (split : receptions = earlier ++ later) (begun : earlier ≠ [])
    (unfinished : later ≠ []) : Short replySize (start.gather earlier) := by
  induction fills generalizing earlier with
  | full _ => exact absurd (List.append_eq_nil_iff.1 split.symm).1 begun
  | fault _ _ | ended _ _ | whole _ _ _ =>
    rcases List.append_eq_singleton_iff.1 split.symm with ⟨none, -⟩ | ⟨-, none⟩
    · exact absurd none begun
    · exact absurd none unfinished
  | more _ _ short _ ih =>
    rcases List.cons_eq_append_iff.1 split with ⟨none, -⟩ | ⟨between, rfl, split⟩
    · exact absurd none begun
    · by_cases first : between = []
      · rw [first]
        exact short
      · exact ih (List.cons.inj split).2 first

/-- **Every end of the loop is right.** A loop may begin with a full buffer only after a chunk that
has shown it to be too little. -/
theorem verdict (fills : Fills replySize start receptions result buffer)
    (begun : start.spare ≠ 0 ∨ Short replySize start) :
    Verdict replySize start receptions buffer result := by
  induction fills with
  | @full start full =>
    have size : start.size = FrameBuffer.capacity := by
      have := start.size_add_spare
      omega
    rcases begun with room | short
    · exact absurd full room
    · exact .tooLarge size (size ▸ short)
  | fault _ _ => exact .fault (List.nil_append _).symm rfl
  | ended _ none => exact .ended (List.nil_append _).symm none (.inl rfl)
  | whole room some enough =>
    exact .whole (FrameBuffer.size_lt_accept some room) enough
  | more room some short _ ih =>
    -- The buffer may be full now, but the chunk that filled it has shown it to be too little.
    exact (ih (.inr short)).sooner room some short

end Fills

/-- A watched link writes down the receives that the link answers. -/
theorem Receives.watched {ℓ δ : Type} {binding : Binding ℓ δ} {handle : ℓ} {device after : δ}
    {receptions : List Reception} (receives : Receives binding handle device receptions after)
    (link : Nat) (calls : List Call) :
    Receives binding.watched (link, handle) ⟨calls, device⟩ receptions
      ⟨calls ++ receptions.map (.received link), after⟩ := by
  induction receives generalizing calls with
  | nil =>
    rw [List.map_nil, List.append_nil]
    exact .nil
  | @cons device next after space outcome receptions first _ ih =>
    have received : binding.watched.receive (link, handle) space ⟨calls, device⟩ =
        (outcome, ⟨calls ++ [.received link ⟨space, outcome⟩], next⟩) := by
      simp only [Binding.watched, first]
    rw [List.map_cons, List.append_cons]
    exact .cons received (ih _)

/-- **The receiving loop ends, with a verdict that is right**, whatever the link does and however
the size of the reply is told. Beginning with nothing it receives no more than 600 times, and each
time there is space; after every receive but the last there was too little. -/
theorem fillFrame_verdict {ℓ δ : Type} (binding : Binding ℓ δ) (handle : ℓ)
    (replySize : Bytes → Nat) (device : δ) (link : Nat) :
    ∃ receptions result buffer after,
      fillFrame binding handle replySize .empty device = (result, buffer, after) ∧
      fillFrame binding.watched (link, handle) replySize .empty (.fresh device) =
        (result, buffer, ⟨receptions.map (.received link), after⟩) ∧
      (receptions.length ≤ 600 ∧ ∀ reception ∈ receptions, reception.space ≠ []) ∧
      (buffer = FrameBuffer.empty.gather receptions ∧
        ∀ earlier later, receptions = earlier ++ later → earlier ≠ [] → later ≠ [] →
          Short replySize (FrameBuffer.empty.gather earlier)) ∧
      Verdict replySize .empty receptions buffer result := by
  obtain ⟨receptions, fills, receives⟩ := fillFrame_spec binding handle replySize .empty device
  have spaces : ∀ reception ∈ receptions, reception.space ≠ [] := by
    intro reception member
    obtain ⟨size, some, shown⟩ := fills.space_eq reception member
    rw [shown]
    simpa using some
  exact ⟨receptions, _, _, _, rfl, fills.fillFrame_eq (receives.watched link []),
    ⟨fills.length_le, spaces⟩,
    ⟨fills.eq_gather, fun _ _ split begun short => fills.short_of_split split begun short⟩,
    fills.verdict (.inl (by decide))⟩

/-- A link that reports an end of the stream of its own. The report is handed on, although nothing
was received and twenty-four bytes were expected. -/
theorem fillFrame_end_handed_on :
    let device : Rehearsal.Device :=
      { Rehearsal.Device.mute with pending := [.fault (.endOfStream 7 9)] }
    let run := fillFrame (Rehearsal.binding false) () frameSize .empty device
    run.1 = .error (.link (.endOfStream 7 9)) ∧ run.2.1.size = 0 ∧
      frameSize run.2.1.bytes = 24 ∧
      ¬∀ received expected, run.1 = .error (.link (.endOfStream received expected)) →
        received = run.2.1.size ∧ expected = frameSize run.2.1.bytes := by
  intro device run
  have received : (Rehearsal.binding false).receive () FrameBuffer.empty.space device =
      (.error (.endOfStream 7 9), Rehearsal.Device.mute) := rfl
  have ended : run = (.error (.link (.endOfStream 7 9)), .empty, Rehearsal.Device.mute) :=
    fillFrame_of_error (by decide) received
  rw [ended]
  refine ⟨rfl, rfl, by decide, fun told => ?_⟩
  have := (told 7 9 rfl).1
  exact absurd this (by decide)

end Enip
