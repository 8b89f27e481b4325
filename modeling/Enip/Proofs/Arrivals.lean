import Enip.Proofs.Framing

/-!
# What is on its way

What lies on a link and has not been received is a list of arrivals: pieces of bytes, faults, and
the end of the stream. `deliver` hands out as much of the first piece as there is space for and
leaves the rest of it for the next receive, so that no byte is lost or made up on the way into the
buffer (`deliver_conserves`).
-/

namespace Enip

/-- Something to be received on a link. -/
inductive Arrival where
  | piece (bytes : Bytes)
  | fault (fault : LinkError)
  | ended

/-- The bytes to be received, put together. -/
def content : List Arrival → Bytes
  | [] => []
  | .piece bytes :: arrivals => bytes ++ content arrivals
  | .fault _ :: arrivals | .ended :: arrivals => content arrivals

/-- What is left of a piece, if anything is, when there was space for `room` bytes. -/
def leftOver (room : Nat) (piece : Bytes) : List Bytes :=
  if piece.length ≤ room then [] else [piece.drop room]

/-- What a receive with space for `room` bytes gets, if anything lies on the link, and what is
left. -/
def deliver (room : Nat) : List Arrival → Option (Except LinkError Delivery × List Arrival)
  | [] => none
  | .piece bytes :: arrivals =>
    some (.ok ⟨bytes.take room, (bytes.take room).length⟩,
      (leftOver room bytes).map .piece ++ arrivals)
  | .fault fault :: arrivals => some (.error fault, arrivals)
  | .ended :: arrivals => some (.ok ⟨[], 0⟩, arrivals)

theorem take_append_leftOver (room : Nat) (piece : Bytes) :
    piece.take room ++ (leftOver room piece).flatten = piece := by
  unfold leftOver
  split
  · rename_i fits
    rw [List.take_of_length_le fits, List.flatten_nil, List.append_nil]
  · rw [List.flatten_singleton, List.take_append_drop]

theorem ne_nil_of_mem_leftOver {room : Nat} {piece left : Bytes}
    (member : left ∈ leftOver room piece) : left ≠ [] := by
  unfold leftOver at member
  split at member
  · cases member
  · rename_i long
    rw [List.mem_singleton.1 member, ne_eq, List.drop_eq_nil_iff]
    exact long

theorem content_append (first second : List Arrival) :
    content (first ++ second) = content first ++ content second := by
  induction first with
  | nil => rfl
  | cons arrival first ih =>
    cases arrival with
    | piece bytes => simp only [List.cons_append, content, ih, List.append_assoc]
    | fault _ => exact ih
    | ended => exact ih

theorem content_pieces (pieces : List Bytes) : content (pieces.map .piece) = pieces.flatten := by
  induction pieces with
  | nil => rfl
  | cons piece pieces ih => rw [List.map_cons, content, ih, List.flatten_cons]

/-- A piece is added to the buffer as far as there is room for it. -/
theorem FrameBuffer.bytes_extended_take (buffer : FrameBuffer) (bytes : Bytes) :
    (buffer.extended ⟨bytes.take buffer.spare, (bytes.take buffer.spare).length⟩).bytes =
      buffer.bytes ++ bytes.take buffer.spare :=
  bytes_extended (List.length_take_le ..)

/-- **What is received goes into the buffer, and the rest stays where it is.** -/
theorem deliver_conserves {buffer : FrameBuffer} {arrivals later : List Arrival}
    {outcome : Except LinkError Delivery}
    (delivered : deliver buffer.spare arrivals = some (outcome, later)) :
    (buffer.accept outcome).bytes ++ content later = buffer.bytes ++ content arrivals := by
  rcases arrivals with _ | ⟨bytes | fault | _, arrivals⟩
  · cases delivered
  · cases delivered
    have added := buffer.bytes_extended_take bytes
    rw [FrameBuffer.extended] at added
    rw [added]
    calc buffer.bytes ++ bytes.take buffer.spare ++
          content ((leftOver buffer.spare bytes).map .piece ++ arrivals)
      _ = buffer.bytes ++ (bytes.take buffer.spare ++ (leftOver buffer.spare bytes).flatten) ++
          content arrivals := by
        rw [content_append, content_pieces]
        simp only [List.append_assoc]
      _ = buffer.bytes ++ content (.piece bytes :: arrivals) := by
        rw [take_append_leftOver, List.append_assoc, content]
  · cases delivered
    rfl
  · cases delivered
    have same : buffer.extended ⟨[], 0⟩ = buffer := FrameBuffer.extended_of_claimed_eq_zero rfl
    rw [FrameBuffer.extended] at same
    rw [same]
    rfl

end Enip
