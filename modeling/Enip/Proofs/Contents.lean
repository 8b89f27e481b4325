import Mathlib.Data.List.DropRight
import Enip.Proofs.Overflow

/-!
# What a buffer holds

Fields are put into a buffer, receivers are let at the space that is left, and now and then it is
cleared. From a new buffer on, `Use.after` takes such steps and writes down what came of each, a
`Turn`; of a receiver it writes down the space it was shown, that space as the receiver left it, and
what it returned. What bytes a field has is laid down (`Field.bytes`) apart from how it is put.

What a buffer holds can be told from the turns alone. It is what came since it was last cleared
(`contents`): the bytes of all fields that were put, and of the space that receivers left as much as
they claimed. And what comes of a step can be told from the turns before it: `Course` is the way
things go for a string of bytes of which there are never more than 600, with no buffer in it at all.
`FrameBuffer.use_course` says that buffers take this course.
-/

namespace Enip.FrameBuffer

/-! ## Steps -/

/-- What is put into a buffer: a number of one, two or four bytes, or bytes as they are. -/
inductive Field where
  | byte (value : UInt8)
  | short (value : UInt16)
  | long (value : UInt32)
  | plain (bytes : Bytes)

/-- Puts a field into a buffer. -/
def Field.put (buffer : FrameBuffer) : Field → Written
  | byte value => buffer.putByte value
  | short value => buffer.putShort value
  | long value => buffer.putLong value
  | plain bytes => buffer.put bytes

/-- The bytes that a field is to have in a buffer. -/
def Field.bytes : Field → Bytes
  | byte value => [value]
  | short value => Bytes.ofShort value
  | long value => Bytes.ofLong value
  | plain bytes => bytes

theorem Field.put_eq (buffer : FrameBuffer) (field : Field) :
    field.put buffer = buffer.put field.bytes := by
  cases field with
  | byte _ => rfl
  | short value => exact congrArg buffer.put (Bytes.littleEndian_short value)
  | long value => exact congrArg buffer.put (Bytes.littleEndian_long value)
  | plain _ => rfl

/-- A call of a receiver. -/
structure Visit (ε : Type) where
  shown : Bytes
  /-- The space as the receiver left it. -/
  left : Bytes
  returned : Except ε Nat

/-- Something that is done with a buffer. From a copy on, that is used in its place. -/
inductive Step (ε σ : Type) where
  | put (field : Field)
  | fill (receive : Receiver ε σ)
  | clear
  | copy

/-- What came of a step. -/
inductive Turn (ε : Type) where
  | put (field : Field) (result : Except FrameError Unit)
  /-- A receiver was called so many times, and this was returned. -/
  | filled (visits : List (Visit ε)) (result : Except ε Nat)
  | cleared
  | copied

/-- A buffer in use, with all that came of it so far. -/
structure Use (ε σ : Type) where
  buffer : FrameBuffer
  /-- What receivers may change. -/
  state : σ
  turns : List (Turn ε)

variable {ε σ : Type}

/-- The receiver with its visits written down. -/
def Receiver.noting (receive : Receiver ε σ) : Receiver ε (σ × List (Visit ε)) :=
  fun space world =>
    let ((written, returned), after) := receive space world.1
    ((written, returned), after, world.2 ++ [⟨space, overwrite space written, returned⟩])

namespace Use

/-- A new buffer. -/
def start (state : σ) : Use ε σ := ⟨.empty, state, []⟩

/-- One step. -/
def step (use : Use ε σ) : Step ε σ → Use ε σ
  | .put field =>
    let (result, buffer) := field.put use.buffer
    { use with buffer, turns := use.turns ++ [.put field result] }
  | .fill receive =>
    let (result, buffer, state, visits) := use.buffer.fill receive.noting (use.state, [])
    ⟨buffer, state, use.turns ++ [.filled visits result]⟩
  | .clear => { use with buffer := use.buffer.clear, turns := use.turns ++ [.cleared] }
  | .copy => { use with turns := use.turns ++ [.copied] }

/-- One step after the other. -/
def after (use : Use ε σ) (steps : List (Step ε σ)) : Use ε σ := steps.foldl step use

end Use

/-! ## Contents -/

namespace Turn

/-- What a turn adds to the buffer. -/
def piece : Turn ε → Bytes
  | put field (.ok ()) => field.bytes
  | filled [visit] (.ok claimed) => visit.left.take (min claimed visit.shown.length)
  | _ => []

/-- The buffer was cleared. -/
def clears : Turn ε → Bool
  | cleared => true
  | _ => false

/-- Nothing came of the step but an error. -/
inductive Failed : Turn ε → Prop
  | put {field : Field} {fault : FrameError} : Failed (.put field (.error fault))
  | filled {visits : List (Visit ε)} {fault : ε} : Failed (.filled visits (.error fault))

theorem Failed.piece_eq {turn : Turn ε} (failed : turn.Failed) : turn.piece = [] := by
  cases failed with
  | put => rfl
  | filled => simp [piece]

end Turn

/-- What there is after these turns: what came since the buffer was last cleared. -/
def contents (turns : List (Turn ε)) : Bytes :=
  (turns.rtakeWhile fun turn => !turn.clears).flatMap Turn.piece

theorem contents_cleared (turns : List (Turn ε)) : contents (turns ++ [.cleared]) = [] := by
  simp [contents, Turn.clears]

theorem contents_snoc (turns : List (Turn ε)) {turn : Turn ε} (keeps : turn.clears = false) :
    contents (turns ++ [turn]) = contents turns ++ turn.piece := by
  simp [contents, keeps]

/-- How things go for a string of at most 600 bytes, as far as it can be told from what came before:
`Course state steps turns final` says what comes of the steps, one after the other, and how they
take what receivers may change from `state` to `final`. -/
inductive Course (state : σ) : List (Step ε σ) → List (Turn ε) → σ → Prop
  | nil : Course state [] [] state
  | put {steps : List (Step ε σ)} {turns : List (Turn ε)} {now : σ}
    (course : Course state steps turns now) (field : Field)
    (fits : (contents turns).length + field.bytes.length ≤ 600) :
    Course state (steps ++ [.put field]) (turns ++ [.put field (.ok ())]) now
  | overflow {steps : List (Step ε σ)} {turns : List (Turn ε)} {now : σ}
    (course : Course state steps turns now) (field : Field)
    (full : 600 < (contents turns).length + field.bytes.length) :
    Course state (steps ++ [.put field])
      (turns ++ [.put field
        (.error (.overflow 600 ((contents turns).length + field.bytes.length)))]) now
  /-- A receiver is called once, is shown as many zeros as there is space, leaves what it wrote
  there in front of the zeros that it did not write over, and returns what is returned. -/
  | fill {steps : List (Step ε σ)} {turns : List (Turn ε)} {now next : σ}
    (course : Course state steps turns now) (receive : Receiver ε σ) {blank written left : Bytes}
    {returned : Except ε Nat} (shown : blank = List.replicate (600 - (contents turns).length) 0)
    (received : receive blank now = ((written, returned), next))
    (rest : left = written.take blank.length ++ List.replicate (blank.length - written.length) 0) :
    Course state (steps ++ [.fill receive])
      (turns ++ [.filled [⟨blank, left, returned⟩] returned]) next
  | clear {steps : List (Step ε σ)} {turns : List (Turn ε)} {now : σ}
    (course : Course state steps turns now) :
    Course state (steps ++ [.clear]) (turns ++ [.cleared]) now
  | copy {steps : List (Step ε σ)} {turns : List (Turn ε)} {now : σ}
    (course : Course state steps turns now) :
    Course state (steps ++ [.copy]) (turns ++ [.copied]) now

/-! ## Buffers -/

/-- Writing over blank space leaves it blank behind what is written. -/
theorem overwrite_space (buffer : FrameBuffer) (written : Bytes) :
    overwrite buffer.space written = written.take buffer.space.length ++
      List.replicate (buffer.space.length - written.length) 0 := by
  rw [overwrite, length_space, space, List.drop_replicate]

/-- A receiver is called once, with the space there is. -/
theorem fill_noting (buffer : FrameBuffer) {receive : Receiver ε σ} {state next : σ}
    {written : Bytes} {returned : Except ε Nat}
    (received : receive buffer.space state = ((written, returned), next)) :
    buffer.fill receive.noting (state, []) =
      (returned, buffer.accept (returned.map (Delivery.mk written)), next,
        [⟨buffer.space, overwrite buffer.space written, returned⟩]) := by
  simp only [fill_eq, Receiver.noting, received, List.nil_append]

/-- What a buffer takes of a delivery is what the turn says. -/
theorem bytes_accept (buffer : FrameBuffer) (written : Bytes) (returned : Except ε Nat) :
    (buffer.accept (returned.map (Delivery.mk written))).bytes = buffer.bytes ++
      (Turn.filled [⟨buffer.space, overwrite buffer.space written, returned⟩] returned).piece := by
  cases returned with
  | error fault => exact (List.append_nil _).symm
  | ok claimed =>
    have whole : (overwrite buffer.space written).length = buffer.space.length :=
      length_overwrite buffer.space written
    simp only [Except.map, accept, Turn.piece, ← whole]
    rw [← List.take_take, List.take_length]

namespace Use

/-- The buffer holds what the turns tell, and they have gone as they do for strings. -/
structure Sound (state : σ) (steps : List (Step ε σ)) (use : Use ε σ) : Prop where
  course : Course state steps use.turns use.state
  bytes : use.buffer.bytes = contents use.turns

variable {state : σ} {steps : List (Step ε σ)} {use : Use ε σ}

theorem sound_start (state : σ) : Sound state [] (start state : Use ε σ) := ⟨.nil, rfl⟩

/-- **One step on a buffer is one step on a string.** -/
theorem Sound.step (sound : use.Sound state steps) (next : Step ε σ) :
    (use.step next).Sound state (steps ++ [next]) := by
  obtain ⟨course, bytes⟩ := sound
  have size : use.buffer.size = (contents use.turns).length := congrArg List.length bytes
  cases next with
  | put field =>
    by_cases room : use.buffer.size + field.bytes.length ≤ 600
    · obtain ⟨longer, put, behind⟩ := use.buffer.put_of_fits field.bytes room
      simp only [Use.step, field.put_eq, put]
      refine ⟨.put course field (size ▸ room), ?_⟩
      rw [behind, bytes, contents_snoc use.turns rfl]
      rfl
    · have full := Nat.lt_of_not_le room
      simp only [Use.step, field.put_eq, put_of_overflow full, size]
      refine ⟨.overflow course field (size ▸ full), ?_⟩
      rw [bytes, contents_snoc use.turns rfl, Turn.Failed.put.piece_eq, List.append_nil]
  | fill receive =>
    rcases received : receive use.buffer.space use.state with ⟨⟨written, returned⟩, after⟩
    simp only [Use.step, fill_noting use.buffer received]
    have shown : use.buffer.space = List.replicate (600 - (contents use.turns).length) 0 := by
      rw [space, spare, size, capacity]
    refine ⟨.fill course receive shown received (use.buffer.overwrite_space written), ?_⟩
    rw [bytes_accept, bytes, contents_snoc use.turns rfl]
  | clear => exact ⟨.clear course, (contents_cleared use.turns).symm⟩
  | copy =>
    refine ⟨.copy course, ?_⟩
    simp only [Use.step]
    rw [bytes, contents_snoc use.turns rfl]
    exact (List.append_nil _).symm

theorem sound_after (state : σ) (steps : List (Step ε σ)) :
    ((start state : Use ε σ).after steps).Sound state steps := by
  induction steps using List.reverseRecOn with
  | nil => exact sound_start state
  | append_singleton steps next ih =>
    rw [after, List.foldl_append]
    exact ih.step next

/-- A step of which nothing came but an error leaves the buffer as it was. -/
theorem buffer_of_failed (use : Use ε σ) {next : Step ε σ} {turn : Turn ε}
    (came : (use.step next).turns = use.turns ++ [turn]) (failed : turn.Failed) :
    (use.step next).buffer = use.buffer := by
  cases next with
  | put field =>
    by_cases room : use.buffer.size + field.bytes.length ≤ 600
    · obtain ⟨longer, put, -⟩ := use.buffer.put_of_fits field.bytes room
      simp only [Use.step, field.put_eq, put, List.append_cancel_left_eq,
        List.singleton_inj] at came
      subst came
      cases failed
    · simp only [Use.step, field.put_eq, put_of_overflow (Nat.lt_of_not_le room)]
  | fill receive =>
    rcases received : receive use.buffer.space use.state with ⟨⟨written, returned⟩, after⟩
    simp only [Use.step, fill_noting use.buffer received, List.append_cancel_left_eq,
      List.singleton_inj] at came ⊢
    subst came
    cases failed
    rfl
  | clear =>
    simp only [Use.step, List.append_cancel_left_eq, List.singleton_inj] at came
    subst came
    cases failed
  | copy => rfl

end Use

/-- **A buffer is a string of at most 600 bytes.** Whatever is done with it, from a new one on, what
comes of each step is what comes of it for such a string: fields are put if they fit, and receivers
are called once, with all the space there is, which is blank. There are never more than 600 bytes,
and with the space that is left there are 600. They are, since it was last cleared, the fields that
were put and what receivers have claimed of the space they left; and no step that fails has changed
anything. -/
theorem use_course (steps : List (Step ε σ)) (state : σ) :
    let use := (Use.start state : Use ε σ).after steps
    (use.buffer.size ≤ 600 ∧ use.buffer.size + use.buffer.spare = 600) ∧
    use.buffer.bytes = contents use.turns ∧
    Course state steps use.turns use.state ∧
    ∀ (next : Step ε σ) (turn : Turn ε), (use.step next).turns = use.turns ++ [turn] →
      turn.Failed → (use.step next).buffer = use.buffer := by
  intro use
  obtain ⟨course, bytes⟩ := Use.sound_after state steps
  exact ⟨⟨use.buffer.fits, use.buffer.size_add_spare⟩, bytes, course,
    fun _ _ came failed => use.buffer_of_failed came failed⟩

end Enip.FrameBuffer
