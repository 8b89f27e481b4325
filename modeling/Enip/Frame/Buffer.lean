import Enip.Bytes
import Enip.Error.Frame

/-!
# The frame buffer

One buffer of 600 bytes serves every frame of a connection, the one being written and the one
being received. `FrameBuffer` is a byte string of at most that length.

* `put` appends bytes if they fit, and changes nothing if they do not. `putByte`, `putShort` and
  `putLong` append a number of one, two or four bytes.
* `fill` lets a receiver write into the unused space. The bytes are first followed by zeros up to
  the capacity, and what the receiver has not claimed is cut off again afterwards. A claim beyond
  the space counts as all of it; a receiver that fails appends nothing. `fill_eq` says what that
  comes to: the receiver is shown blank space, and the bytes that it leaves there and claims are
  appended (`accept`).
-/

namespace Enip

/-- At most 600 bytes of a frame, put or received since the buffer was last cleared. -/
structure FrameBuffer where
  bytes : Bytes
  fits : bytes.length ≤ 600

/-- What a receiver did with the space it was offered. -/
structure Delivery where
  /-- The bytes it wrote, from the start of the space. -/
  written : Bytes
  /-- How many bytes it says it wrote. -/
  claimed : Nat

namespace FrameBuffer

/-- The number of bytes that a buffer holds when it is full. -/
def capacity : Nat := 600

/-- The buffer with nothing in it. -/
def empty : FrameBuffer := ⟨[], by decide⟩

/-- The buffer made ready for the next frame. -/
def clear (_ : FrameBuffer) : FrameBuffer := empty

/-- How many bytes are in the buffer. -/
def size (buffer : FrameBuffer) : Nat := buffer.bytes.length

/-- How many bytes still fit. -/
def spare (buffer : FrameBuffer) : Nat := capacity - buffer.size

theorem size_add_spare (buffer : FrameBuffer) : buffer.size + buffer.spare = capacity := by
  have := buffer.fits
  simp only [size, spare, capacity]
  omega

/-! ## Writing -/

/-- What writing into a buffer leaves: whether all of it fitted, and the buffer. -/
abbrev Written := Except FrameError Unit × FrameBuffer

/-- Goes on writing, unless something did not fit. -/
def Written.andThen : Written → (FrameBuffer → Written) → Written
  | (.ok (), buffer), next => next buffer
  | failed, _ => failed

theorem Written.andThen_ok (written : Written) :
    (written.andThen fun buffer => (.ok (), buffer)) = written := by
  rcases written with ⟨fault | ⟨⟩, buffer⟩ <;> rfl

theorem Written.andThen_assoc (written : Written) (next last : FrameBuffer → Written) :
    (written.andThen next).andThen last =
      written.andThen fun buffer => (next buffer).andThen last := by
  rcases written with ⟨fault | ⟨⟩, buffer⟩ <;> rfl

/-- Appends bytes if they fit. -/
def put (buffer : FrameBuffer) (more : Bytes) : Written :=
  if room : buffer.size + more.length ≤ capacity then
    (.ok (), ⟨buffer.bytes ++ more, by simpa [size, capacity] using room⟩)
  else
    (.error (.overflow capacity (buffer.size + more.length)), buffer)

/-- Appends one byte. -/
def putByte (buffer : FrameBuffer) (value : UInt8) : Written := buffer.put [value]

/-- Appends a number of two bytes. -/
def putShort (buffer : FrameBuffer) (value : UInt16) : Written :=
  buffer.put (Bytes.littleEndian 2 value.toNat)

/-- Appends a number of four bytes. -/
def putLong (buffer : FrameBuffer) (value : UInt32) : Written :=
  buffer.put (Bytes.littleEndian 4 value.toNat)

/-! ## Receiving -/

/-- A receiver: what it writes into the space it is shown, from its start, how many bytes it claims
to have written or why it has failed, and what else it changes. -/
abbrev Receiver (ε σ : Type) : Type := Bytes → σ → (Bytes × Except ε Nat) × σ

/-- The space after a receiver wrote to its start. What goes beyond the end is lost. -/
def overwrite (space written : Bytes) : Bytes :=
  written.take space.length ++ space.drop written.length

@[simp] theorem length_overwrite (space written : Bytes) :
    (overwrite space written).length = space.length := by
  simp [overwrite]
  omega

/-- Lets `receive` write behind the bytes in the buffer. Gives back what it returned, its claim or
its error, and whatever else it changed. -/
def fill {ε σ : Type} (buffer : FrameBuffer) (receive : Receiver ε σ) (state : σ) :
    Except ε Nat × FrameBuffer × σ :=
  let filled := buffer.size
  let grown := Bytes.resize buffer.bytes capacity
  let ((written, returned), state) := receive (grown.drop filled) state
  let store := grown.take filled ++ overwrite (grown.drop filled) written
  let appended := match returned with
    | .ok claimed => min claimed (capacity - filled)
    | .error _ => 0
  (returned, ⟨store.take (filled + appended), by simp [store, grown, capacity]; omega⟩, state)

/-! ## What receiving comes to -/

/-- The unused space as a receiver finds it: zeros. -/
def space (buffer : FrameBuffer) : Bytes := List.replicate buffer.spare 0

@[simp] theorem length_space (buffer : FrameBuffer) : buffer.space.length = buffer.spare := by
  simp [space]

/-- Appends the part of the space that a receiver claims, and nothing if it failed. -/
def accept {ε : Type} (buffer : FrameBuffer) : Except ε Delivery → FrameBuffer
  | .ok delivery =>
    let arrived := (overwrite buffer.space delivery.written).take delivery.claimed
    ⟨buffer.bytes ++ arrived, by
      have := buffer.size_add_spare
      simp only [size, capacity] at this
      simp only [arrived, List.length_append, List.length_take, length_overwrite, length_space]
      omega⟩
  | .error _ => buffer

/-- Growing a buffer leaves its bytes, and blank space behind them. -/
theorem resize_eq (buffer : FrameBuffer) :
    Bytes.resize buffer.bytes capacity = buffer.bytes ++ buffer.space := by
  have whole : buffer.bytes.take capacity = buffer.bytes := List.take_of_length_le buffer.fits
  rw [Bytes.resize, whole, space, spare, size]

/-- **A receiver is shown the blank space, and what it claims of what it leaves there is appended.**
-/
theorem fill_eq {ε σ : Type} (buffer : FrameBuffer) (receive : Receiver ε σ) (state : σ) :
    buffer.fill receive state =
      let ((written, returned), after) := receive buffer.space state
      (returned, buffer.accept (returned.map (Delivery.mk written)), after) := by
  have shown : (Bytes.resize buffer.bytes capacity).drop buffer.size = buffer.space := by
    rw [resize_eq, size, List.drop_left]
  have kept : (Bytes.resize buffer.bytes capacity).take buffer.size = buffer.bytes := by
    rw [resize_eq, size, List.take_left]
  have cut (left : Bytes) (claimed : Nat) (whole : left.length = capacity - buffer.size) :
      (buffer.bytes ++ left).take (buffer.size + min claimed (capacity - buffer.size)) =
        buffer.bytes ++ left.take claimed := by
    rw [size, List.take_length_add_append, ← size, ← whole, ← List.take_eq_take_min]
  rcases received : receive buffer.space state with ⟨⟨written, fault | claimed⟩, after⟩
  all_goals simp only [fill, shown, kept, received, Except.map, accept]
  · simp only [size, Nat.add_zero, List.take_left]
  · simp only [cut _ claimed ((length_overwrite ..).trans buffer.length_space)]

/-- A delivery takes what it claims of the space there is. -/
theorem size_accept {ε : Type} (buffer : FrameBuffer) (delivery : Delivery) :
    (buffer.accept (.ok delivery : Except ε Delivery)).size =
      buffer.size + min delivery.claimed buffer.spare := by
  simp [accept, size]

/-- A claim of at least one byte makes the buffer longer, if there is any space. -/
theorem size_lt_accept {ε : Type} {buffer : FrameBuffer} {delivery : Delivery}
    (some : delivery.claimed ≠ 0) (room : buffer.spare ≠ 0) :
    buffer.size < (buffer.accept (.ok delivery : Except ε Delivery)).size := by
  rw [size_accept]
  omega

/-- It takes some of the space. -/
theorem spare_accept_lt {ε : Type} {buffer : FrameBuffer} {delivery : Delivery}
    (some : delivery.claimed ≠ 0) (room : buffer.spare ≠ 0) :
    (buffer.accept (.ok delivery : Except ε Delivery)).spare < buffer.spare := by
  have := size_lt_accept (ε := ε) some room
  have := size_add_spare buffer
  have := size_add_spare (buffer.accept (.ok delivery : Except ε Delivery))
  omega

/-- So does a receiver that claims as much. -/
theorem spare_lt_of_fill {ε σ : Type} {buffer longer : FrameBuffer} {receive : Receiver ε σ}
    {state after : σ} {claimed : Nat}
    (filled : buffer.fill receive state = (.ok claimed, longer, after)) (some : claimed ≠ 0)
    (room : buffer.spare ≠ 0) : longer.spare < buffer.spare := by
  rw [fill_eq] at filled
  rcases received : receive buffer.space state with ⟨⟨written, returned⟩, after⟩
  rw [received] at filled
  simp only [Prod.mk.injEq] at filled
  obtain ⟨rfl, rfl, rfl⟩ := filled
  exact @spare_accept_lt ε buffer ⟨written, claimed⟩ some room

end FrameBuffer

end Enip
