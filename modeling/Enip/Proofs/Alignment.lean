import Enip.Proofs.Reassembly
import Enip.Proofs.Serving

/-!
# Links at the bounds of frames

If a device sends one whole frame after the other, then the bytes that were taken off an open link
are a whole number of frames, and the next reply begins where a frame begins. There are two ways in
which that can come to an end. A reply may be received by itself and break off, for the link stays
open then. Or a piece holds the end of one frame and the beginning of another, and the reply is none
for a reason that does not close the link. `Client.run_aligned` says that there is no third.

`taken` are the bytes that were taken off a link. What carries the argument is that a reply is
received to the end of a frame and not beyond: the loop stops with the piece that brings the end
(`Fills.last_piece`), and that piece ends there unless it is `Mixed` (`Aligned.next_reply`).
-/

namespace Enip

/-! ## What is taken off a link -/

/-- The bytes that a reception adds to the buffer. -/
def Reception.bytes (reception : Reception) : Bytes :=
  match reception.outcome with
  | .ok delivery => (FrameBuffer.overwrite reception.space delivery.written).take delivery.claimed
  | .error _ => []

/-- The bytes that a call takes off its link, if it receives any. -/
def Call.piece? : Call → Option Bytes
  | received _ reception => some reception.bytes
  | _ => none

/-- The pieces that were taken off a link, in order. -/
def pieces (link : Nat) (calls : List Call) : List Bytes :=
  (callsOn link calls).filterMap Call.piece?

/-- The bytes that were taken off a link. -/
def taken (link : Nat) (calls : List Call) : Bytes := (pieces link calls).flatten

theorem pieces_append (link : Nat) (first second : List Call) :
    pieces link (first ++ second) = pieces link first ++ pieces link second := by
  rw [pieces, callsOn_append, List.filterMap_append]
  rfl

theorem filterMap_received (link : Nat) (receptions : List Reception) :
    (receptions.map (.received link)).filterMap Call.piece? =
      receptions.map Reception.bytes := by
  rw [List.filterMap_map]
  exact congrFun List.filterMap_eq_map receptions

theorem OnLink.pieces_append {link : Nat} {calls : List Call} (onLink : OnLink link calls)
    (before : List Call) :
    pieces link (before ++ calls) = pieces link before ++ calls.filterMap Call.piece? := by
  rw [Enip.pieces_append, pieces, pieces, onLink.callsOn_self]

theorem taken_append (link : Nat) (first second : List Call) :
    taken link (first ++ second) = taken link first ++ taken link second := by
  rw [taken, pieces_append, List.flatten_append]
  rfl

theorem taken_grows {link : Nat} {first second : List Call} (grown : first <+: second) :
    taken link first <+: taken link second := by
  obtain ⟨more, rfl⟩ := grown
  rw [taken_append]
  exact List.prefix_append ..

namespace Fills

variable {replySize : Bytes → Nat} {buffer longer : FrameBuffer} {receptions : List Reception}
  {result : Except Error Unit}

/-- The buffer holds all that was taken off the link. -/
theorem bytes_eq (fills : Fills replySize buffer receptions result longer) :
    longer.bytes = buffer.bytes ++ (receptions.map Reception.bytes).flatten := by
  induction fills with
  | full _ => exact (List.append_nil _).symm
  | fault _ _ => exact (List.append_nil _).symm
  | ended _ none => simp [Reception.bytes, none]
  | whole _ _ _ =>
    rw [List.map_singleton, List.flatten_singleton]
    rfl
  | more _ _ _ _ ih =>
    rw [ih, List.map_cons, List.flatten_cons, ← List.append_assoc]
    rfl

/-- The loop ends with the piece that makes the reply long enough. -/
theorem last_piece (fills : Fills replySize buffer receptions (.ok ()) longer)
    (short : buffer.size < replySize buffer.bytes) : ∃ earlier last,
      receptions = earlier ++ [last] ∧
      (buffer.bytes ++ (earlier.map Reception.bytes).flatten).length <
        replySize (buffer.bytes ++ (earlier.map Reception.bytes).flatten) := by
  generalize ended : (.ok () : Except Error Unit) = result at fills
  induction fills with
  | full _ => cases ended
  | fault _ _ => cases ended
  | ended _ _ => cases ended
  | whole _ _ _ =>
    refine ⟨[], _, rfl, ?_⟩
    rw [List.map_nil, List.flatten_nil, List.append_nil]
    exact short
  | @more buffer _ _ _ _ delivery _ stillShort _ ih =>
    obtain ⟨earlier, last, rfl, held⟩ := ih stillShort ended
    refine ⟨⟨buffer.space, .ok delivery⟩ :: earlier, last, rfl, ?_⟩
    rw [List.map_cons, List.flatten_cons, ← List.append_assoc]
    exact held

end Fills

/-! ## Streams of frames -/

/-- The bytes are a whole number of frames. -/
def Aligned (frames : List Bytes) (bytes : Bytes) : Prop := ∃ n, bytes = (frames.take n).flatten

/-- There is a piece that holds bytes of two frames. -/
def Mixed (frames pieces : List Bytes) : Prop :=
  ∃ earlier piece later n, pieces = earlier ++ piece :: later ∧
    earlier.flatten.length < (frames.take n).flatten.length ∧
    (frames.take n).flatten.length < (earlier ++ [piece]).flatten.length

section

variable {frames : List Bytes} {prior data : Bytes}

/-- After a whole number of frames there comes a frame. -/
theorem Aligned.next (aligned : Aligned frames prior) (begins : prior ++ data <+: frames.flatten)
    (some : data ≠ []) : ∃ frame ∈ frames, ∃ rest n,
      prior ++ frame = (frames.take n).flatten ∧ data <+: frame ++ rest := by
  obtain ⟨n, rfl⟩ := aligned
  have all : frames.flatten = (frames.take n).flatten ++ (frames.drop n).flatten := by
    rw [← List.flatten_append, List.take_append_drop]
  rw [all, List.prefix_append_right_inj] at begins
  rcases left : frames.drop n with _ | ⟨frame, rest⟩
  all_goals rw [left] at begins
  · exact absurd (List.prefix_nil.1 begins) some
  · have member : frame ∈ frames := List.mem_of_mem_drop (left ▸ List.mem_cons_self)
    refine ⟨frame, member, rest.flatten, n + 1, ?_, begins⟩
    rw [List.take_add, left, List.flatten_append, List.take_succ_cons, List.take_zero,
      List.flatten_singleton]

variable (whole : ∀ frame ∈ frames, Whole frame)

include whole

/-- A whole frame more is a whole number of frames. -/
theorem Aligned.next_whole (aligned : Aligned frames prior)
    (begins : prior ++ data <+: frames.flatten) (own : Whole data) :
    Aligned frames (prior ++ data) := by
  have some : data ≠ [] := by
    rintro rfl
    exact absurd own.header (by decide)
  obtain ⟨frame, member, rest, n, all, starts⟩ := aligned.next begins some
  refine ⟨n, ?_⟩
  rw [← all]
  rcases List.prefix_or_prefix_of_prefix starts (List.prefix_append frame rest) with short | long
  · rw [(whole frame member).eq_of_frameSize_le short (Nat.le_of_eq own.announced)]
  · rw [own.eq_of_frameSize_le long (Nat.le_of_eq (whole frame member).announced)]

/-- A reply that ends with the piece in which it is long enough is a frame, unless that piece holds
bytes of two frames. -/
theorem Aligned.next_reply {before earlier : List Bytes} {last : Bytes}
    (aligned : Aligned frames before.flatten)
    (begins : (before ++ (earlier ++ [last])).flatten <+: frames.flatten)
    (short : earlier.flatten.length < frameSize earlier.flatten)
    (enough : frameSize (earlier ++ [last]).flatten ≤ (earlier ++ [last]).flatten.length) :
    Aligned frames (before ++ (earlier ++ [last])).flatten ∨
      Mixed frames (before ++ (earlier ++ [last])) := by
  rw [List.flatten_append] at begins
  have some : (earlier ++ [last]).flatten ≠ [] := by
    intro none
    rw [none] at enough
    exact absurd enough (by decide)
  obtain ⟨frame, member, rest, n, all, starts⟩ := aligned.next begins some
  have isWhole := whole frame member
  rcases List.prefix_or_prefix_of_prefix starts (List.prefix_append frame rest) with within | beyond
  · refine .inl ⟨n, ?_⟩
    rw [List.flatten_append, isWhole.eq_of_frameSize_le within enough, all]
  · by_cases same : frame.length = (earlier ++ [last]).flatten.length
    · refine .inl ⟨n, ?_⟩
      rw [List.flatten_append, ← beyond.eq_of_length same, all]
    · -- The frame ends within the last piece.
      have held : earlier.flatten.length < frame.length := by
        refine Nat.lt_of_not_le fun long => ?_
        have inside : frame <+: earlier.flatten := by
          refine List.prefix_of_prefix_length_le beyond ?_ long
          rw [List.flatten_append]
          exact List.prefix_append ..
        have header : 4 ≤ frame.length := Nat.le_trans (by decide) isWhole.header
        rw [← frameSize_of_begins inside header, isWhole.announced] at short
        exact Nat.not_lt_of_le long short
      refine .inr ⟨before ++ earlier, last, [], n, ?_, ?_, ?_⟩
      · rw [List.append_assoc]
      · rw [← all, List.flatten_append, List.length_append, List.length_append]
        omega
      · have longer := beyond.length_le
        rw [← all, List.append_assoc, List.flatten_append, List.length_append, List.length_append]
        omega

end

/-! ## Replies -/

/-- Whether the bytes are found to be no reply before their number is looked at, or for it. -/
def FrameError.misfit : FrameError → Bool
  | unknownCommand _ | unexpectedCommand _ _ | refused _ | trailing _ _ => true
  | _ => false

/-- The result is such an error. -/
def Misfits {ρ : Type} (result : Except Error ρ) : Prop :=
  ∃ fault, result = .error (.frame fault) ∧ fault.misfit = true

/-- The bytes that are taken for a reply are as many as its header says, and no others are read. -/
def Framed (α : Type) {ρ : Type} [Request α ρ] : Prop :=
  ∀ request : α, Request.replySize request = frameSize ∧
    ∀ data, frameSize data ≤ data.length → Whole data ∨
      ∃ fault, Request.decode request data = .error fault ∧ fault.misfit = true

/-- With a header there is a command, or an unknown one. -/
theorem Header.parse_error {data : Bytes} {fault : FrameError} (long : Header.size ≤ data.length)
    (failed : Header.parse data = .error fault) : ∃ code, fault = .unknownCommand code := by
  obtain ⟨raw, taken, -⟩ := Header.Raw.read?_of_le long
  rw [Header.parse, taken] at failed
  dsimp only at failed
  split at failed
  · exact ⟨_, (Except.error.inj failed).symm⟩
  · cases failed

/-- Enough bytes for a reply are a whole frame, or they are found to be none. -/
theorem Reply.whole_or_misfit (command : Command) {data : Bytes}
    (enough : frameSize data ≤ data.length) :
    Whole data ∨ ∃ fault, Reply.split data command = .error fault ∧ fault.misfit = true := by
  have long : Header.size ≤ data.length := Nat.le_trans (size_le_frameSize data) enough
  rcases parsed : Header.parse data with fault | ⟨header, payload⟩
  all_goals simp only [Reply.split, parsed, bind, Except.bind]
  · obtain ⟨code, rfl⟩ := Header.parse_error long parsed
    exact .inr ⟨_, rfl, rfl⟩
  · obtain ⟨-, -, size, -⟩ := Header.parse_ok parsed
    by_cases same : header.frameSize = data.length
    · exact .inl ⟨long, size.symm.trans same⟩
    · right
      split
      · exact ⟨_, rfl, rfl⟩
      · split
        · exact ⟨_, rfl, rfl⟩
        · split
          · omega
          · split
            · exact ⟨_, rfl, rfl⟩
            · omega

theorem RegisterSession.framed : Framed RegisterSession := by
  refine fun _ => ⟨rfl, fun data enough => ?_⟩
  rcases Reply.whole_or_misfit .registerSession enough with whole | ⟨fault, failed, misfit⟩
  · exact .inl whole
  · refine .inr ⟨fault, ?_, misfit⟩
    change RegisterSession.decode data = _
    simp only [RegisterSession.decode, failed, bind, Except.bind]

theorem Encapsulated.framed {π ρ : Type} [Payload π ρ] : Framed (Encapsulated π) := by
  refine fun request => ⟨rfl, fun data enough => ?_⟩
  rcases Reply.whole_or_misfit request.command enough with whole | ⟨fault, failed, misfit⟩
  · exact .inl whole
  · refine .inr ⟨fault, ?_, misfit⟩
    change Encapsulated.decode request data = _
    simp only [Encapsulated.decode, failed, bind, Except.bind]

section

variable {α ρ : Type} [Request α ρ] (framed : Framed α) {frames before : List Bytes}
  (whole : ∀ frame ∈ frames, Whole frame) {request : α} {result : Except Error ρ}

include framed whole

/-- Receiving a reply takes a frame off the link, unless the link fails or is closed. -/
theorem Heard.aligned {receptions : List Reception} (heard : Heard request receptions result)
    (steady : ¬Faulted result) (small : ¬Oversized result)
    (aligned : Aligned frames before.flatten)
    (begins : (before ++ receptions.map Reception.bytes).flatten <+: frames.flatten) :
    Aligned frames (before ++ receptions.map Reception.bytes).flatten ∨
      (Misfits result ∧ Mixed frames (before ++ receptions.map Reception.bytes)) := by
  obtain ⟨filled, longer, fills, rfl⟩ := heard
  rcases filled with error | ⟨⟩
  · rcases fills.error_cases with ⟨fault, rfl⟩ | ⟨size, capacity, rfl⟩
    · exact absurd ⟨fault, rfl⟩ steady
    · exact absurd ⟨size, capacity, rfl⟩ small
  · obtain ⟨sized, readable⟩ := framed request
    rw [sized] at fills
    have data : longer.bytes = (receptions.map Reception.bytes).flatten := fills.bytes_eq
    have enough : frameSize longer.bytes ≤ longer.bytes.length := fills.le_size
    rcases readable longer.bytes enough with own | ⟨fault, read, misfit⟩
    · rw [List.flatten_append, ← data] at begins ⊢
      exact .inl (aligned.next_whole whole begins own)
    · have misfits : Misfits ((Except.ok () : Except Error Unit).bind fun _ =>
          (Request.decode request longer.bytes).mapError Error.frame) := by
        rw [read]
        exact ⟨fault, rfl, misfit⟩
      obtain ⟨earlier, last, rfl, short⟩ := fills.last_piece (by decide)
      rw [data] at enough
      rw [List.map_append, List.map_singleton] at begins enough ⊢
      rcases aligned.next_reply whole begins short enough with still | mixed
      · exact .inl still
      · exact .inr ⟨misfits, mixed⟩

/-- So does an exchange. -/
theorem Exchanged.aligned {link : Nat} {use : List Call}
    (exchanged : Exchanged link request result use) (steady : ¬Faulted result)
    (small : ¬Oversized result) (aligned : Aligned frames before.flatten)
    (begins : (before ++ use.filterMap Call.piece?).flatten <+: frames.flatten) :
    Aligned frames (before ++ use.filterMap Call.piece?).flatten ∨
      (Misfits result ∧ Mixed frames (before ++ use.filterMap Call.piece?)) := by
  cases exchanged with
  | unwritten _ =>
    rw [List.filterMap_nil, List.append_nil]
    exact .inl aligned
  | unsent _ fault => exact absurd ⟨fault, rfl⟩ steady
  | sent _ heard =>
    rw [List.filterMap_cons_none rfl, filterMap_received] at begins ⊢
    exact heard.aligned framed whole steady small aligned begins

end

/-! ## Operations -/

section

variable {ℓ δ α ρ : Type} [Request α ρ] {frames : List Bytes}
  (whole : ∀ frame ∈ frames, Whole frame) {handshake : Bool} {request sent : α}
  {before after : Connection (Nat × ℓ) (Watched δ)} {link : Nat × ℓ}

/-- The pieces that were taken off a link that is new. -/
theorem Numbered.pieces_opened {calls mine : List Call} (numbered : Numbered calls)
    (onLink : OnLink (links calls) mine) :
    pieces (links calls) (calls ++ .opened (links calls) :: mine) =
      mine.filterMap Call.piece? := by
  rw [pieces, numbered.callsOn_opened onLink]
  exact List.filterMap_cons_none rfl

include whole

/-- The reply that registers a session is a frame. -/
theorem Opening.aligned {link : Nat} {session : SessionId} {calls : List Call}
    (opening : Opening handshake link (.ok session) calls)
    (begins : (calls.filterMap Call.piece?).flatten <+: frames.flatten) :
    Aligned frames (calls.filterMap Call.piece?).flatten := by
  have nothing : Aligned frames (List.flatten []) := ⟨0, rfl⟩
  cases opening with
  | plain _ => exact nothing
  | registered _ granted =>
    rw [List.filterMap_cons_none rfl] at begins ⊢
    rcases granted.aligned RegisterSession.framed whole (not_faulted_ok session)
      (not_oversized_ok session) nothing begins with aligned | ⟨⟨_, ⟨⟩, _⟩, _⟩
    exact aligned

/-- A link is aligned once it is open. -/
theorem Connects.aligned {result : Except Error Unit}
    (connects : Connects handshake before result after) (sound : before.Sound handshake)
    (held : after.link = some link)
    (aligned : before.link = some link → Aligned frames (taken link.1 before.device.calls))
    (begins : taken link.1 after.device.calls <+: frames.flatten) :
    Aligned frames (taken link.1 after.device.calls) := by
  cases connects with
  | kept _ => exact aligned held
  | failed unlinked same _ _ =>
    rw [same.link, unlinked] at held
    cases held
  | opened _ now _ _ opening made =>
    cases now.symm.trans held
    obtain ⟨begun, rfl, beginning⟩ := opening.beginning
    have all := sound.numbered.pieces_opened beginning.onLink
    rw [← made] at all
    rw [taken, all] at begins ⊢
    have first := opening.aligned whole
    rw [List.filterMap_cons_none rfl] at first
    exact first begins

/-- A link is aligned after an attempt that neither fails for the link nor closes it. -/
theorem Tries.aligned (framed : Framed α) {result : Except Error ρ}
    (tries : Tries handshake request before result sent after)
    (numbered : Numbered before.device.calls) (held : after.link = some link)
    (steady : ¬Faulted result) (small : ¬Oversized result)
    (aligned : before.link = some link → Aligned frames (taken link.1 before.device.calls))
    (begins : taken link.1 after.device.calls <+: frames.flatten) :
    Aligned frames (taken link.1 after.device.calls) ∨
      (Misfits result ∧ Mixed frames (pieces link.1 after.device.calls)) := by
  cases tries with
  | unopened unlinked same _ _ =>
    rw [same.link, unlinked] at held
    cases held
  | @opened _ _ _ _ _ use _ now _ opening asked made =>
    cases now.symm.trans held
    obtain ⟨begun, rfl, beginning⟩ := opening.beginning
    rw [List.cons_append] at made
    have all := numbered.pieces_opened (beginning.onLink.append asked.onLink)
    rw [← made, List.filterMap_append] at all
    rw [taken, all] at begins ⊢
    have first := opening.aligned whole
    rw [List.filterMap_cons_none rfl] at first
    refine asked.aligned framed whole steady small (first ?_) begins
    rw [List.flatten_append] at begins
    exact (List.prefix_append _ _).trans begins
  | kept now same asked made =>
    cases (now.symm.trans (same.link.symm.trans held))
    have all := asked.onLink.pieces_append before.device.calls
    rw [← made] at all
    rw [taken, all] at begins ⊢
    exact asked.aligned framed whole steady small (aligned now) begins

end

namespace Client

variable {ℓ δ α ρ : Type} [Request α ρ] {client : Client ℓ δ} {frames : List Bytes}
  {link : Nat × ℓ} {before after : Connection (Nat × ℓ) (Watched δ)} {request : α}

/-- What may leave an open link within a frame. -/
inductive Disturbs (client : Client ℓ δ) (frames : List Bytes) (link : Nat × ℓ)
    (before : Connection (Nat × ℓ) (Watched δ)) : Operation α → Prop
  /-- A reply was received by itself, and broke off. -/
  | interrupted {request : α} {fault : LinkError} (held : before.link = some link)
    (failed : (client.watched.read request before).1 = .error (.link fault))
    (some : taken link.1 (client.watched.read request before).2.device.calls ≠
      taken link.1 before.device.calls) : Disturbs client frames link before (.read request)
  /-- A reply was received by itself in pieces of which one held bytes of two frames, and was found
  to be none. -/
  | misread {request : α} {fault : FrameError}
    (failed : (client.watched.read request before).1 = .error (.frame fault))
    (misfit : fault.misfit = true)
    (mixed : Mixed frames
      (pieces link.1 (client.watched.read request before).2.device.calls)) :
    Disturbs client frames link before (.read request)
  /-- So was the reply to a request that was executed. -/
  | misexecuted {request : α} {fault : FrameError}
    (failed : (client.watched.execute request before).1 = .failed (.frame fault))
    (misfit : fault.misfit = true)
    (mixed : Mixed frames
      (pieces link.1 (client.watched.execute request before).2.2.device.calls)) :
    Disturbs client frames link before (.execute request)

/-- Nothing is received where a request is sent. -/
theorem write_aligned (held : (client.watched.write request before).2.link = some link)
    (aligned : before.link = some link → Aligned frames (taken link.1 before.device.calls)) :
    Aligned frames (taken link.1 (client.watched.write request before).2.device.calls) := by
  rcases now : before.link with _ | own
  · rw [client.watched.write_of_none request now, now] at held
    cases held
  · rw [client.watched.write_of_link request now] at held ⊢
    rw [(client.watched.transmit_sameLink own request before).link, now] at held
    cases held
    rcases written : Request.frame request with fault | frame
    · rw [(client.watched.transmit_of_unwritten link request before written).2]
      exact aligned now
    · obtain ⟨outcome, -, made⟩ := client.transmit_calls link request before written
      rw [taken, made, (OnLink.sent link.1 frame outcome).pieces_append,
        List.filterMap_cons_none rfl, List.filterMap_nil, List.append_nil]
      exact aligned now

/-- A link that is held after an execution was used by the last attempt, which decided. -/
theorem held_of_executes {number more : Nat} {outcome : Outcome ρ} {sent : α}
    (executes : Executes client.watched number more request before outcome sent after)
    (sound : before.Sound client.binding.handshake) (held : after.link = some link) :
    ∃ asked start result, Tries client.binding.handshake asked start result sent after ∧
      Numbered start.device.calls ∧ (start = before ∨ start.link = none) ∧
      ¬Faulted result ∧ ¬Oversized result ∧ outcome = .ofResult result := by
  induction executes with
  | @settled _ _ request _ before after result tried settled =>
    by_cases oversized : Oversized result
    · obtain ⟨event, dropped⟩ := client.watched.dropOversized_of_oversized after oversized
      rw [dropped, client.watched.link_of_close] at held
      cases held
    · rw [client.watched.dropOversized_of_not_oversized after oversized]
      exact ⟨request, before, result, client.attempt_tries request tried, sound.numbered,
        .inl rfl, settled, oversized, rfl⟩
  | exhausted _ =>
    rw [client.watched.link_of_close] at held
    cases held
  | aborted _ closing _ =>
    have kept : (client.watched.close _).link = some link := closing ▸ held
    cases kept.symm.trans (client.watched.link_of_close _)
  | @retried number _ request _ _ _ after closed _ fault _ _ tried closing _ _ ih =>
    have first := serves_of_closed sound tried (.attemptFailed number fault)
    have same := client.watched.close_sameLink (after.note (.attemptFailed number fault))
    rw [← closing] at first same
    obtain ⟨asked, start, result, tries, numbered, origin, rest⟩ :=
      ih (.closed same.link same.isOpen same.session first.numbered) held
    refine ⟨asked, start, result, tries, numbered, .inr ?_, rest⟩
    rcases origin with rfl | unlinked
    · exact same.link
    · exact unlinked

section

variable (framed : Framed α) (whole : ∀ frame ∈ frames, Whole frame)

include framed whole

theorem read_aligned (held : (client.watched.read request before).2.link = some link)
    (aligned : before.link = some link → Aligned frames (taken link.1 before.device.calls))
    (begins : taken link.1 (client.watched.read request before).2.device.calls <+:
      frames.flatten) :
    Aligned frames (taken link.1 (client.watched.read request before).2.device.calls) ∨
      Disturbs client frames link before (.read request) := by
  rcases now : before.link with _ | own
  · rw [client.watched.read_of_none request now] at held
    cases now.symm.trans held
  · have received := client.watched.read_of_link request now
    obtain ⟨receptions, heard, made⟩ := client.receive_heard own request before
    have same := client.watched.receive_sameLink own request before
    rcases run : client.watched.receive own request before with ⟨result, after⟩
    rw [run] at received heard made same
    by_cases oversized : Oversized result
    · obtain ⟨event, dropped⟩ := client.watched.dropOversized_of_oversized after oversized
      rw [received, dropped, client.watched.link_of_close] at held
      cases held
    · rw [client.watched.dropOversized_of_not_oversized after oversized] at received
      rw [received] at held begins ⊢
      cases now.symm.trans (same.link.symm.trans held)
      by_cases faulted : Faulted result
      · obtain ⟨fault, rfl⟩ := faulted
        by_cases unmoved : taken link.1 after.device.calls = taken link.1 before.device.calls
        · rw [unmoved]
          exact .inl (aligned now)
        · have failed := congrArg Prod.fst received
          refine .inr (.interrupted now failed ?_)
          rw [received]
          exact unmoved
      · have all := (OnLink.received link.1 receptions).pieces_append before.device.calls
        rw [← made, filterMap_received] at all
        rw [taken, all] at begins ⊢
        rcases heard.aligned framed whole faulted oversized (aligned now) begins with
          still | ⟨⟨fault, rfl, misfit⟩, mixed⟩
        · exact .inl still
        · have failed := congrArg Prod.fst received
          refine .inr (.misread failed misfit ?_)
          rw [received, all]
          exact mixed

theorem execute_aligned (sound : before.Sound client.binding.handshake)
    (held : (client.watched.execute request before).2.2.link = some link)
    (aligned : before.link = some link → Aligned frames (taken link.1 before.device.calls))
    (begins : taken link.1 (client.watched.execute request before).2.2.device.calls <+:
      frames.flatten) :
    Aligned frames (taken link.1 (client.watched.execute request before).2.2.device.calls) ∨
      Disturbs client frames link before (.execute request) := by
  obtain ⟨asked, start, result, tries, numbered, origin, steady, small, outcome⟩ :=
    held_of_executes (client.watched.executes ..) sound held
  have first (own : start.link = some link) : Aligned frames (taken link.1 start.device.calls) := by
    rcases origin with rfl | unlinked
    · exact aligned own
    · rw [unlinked] at own
      cases own
  rcases tries.aligned whole framed numbered held steady small first begins with
    still | ⟨⟨fault, rfl, misfit⟩, mixed⟩
  · exact .inl still
  · exact .inr (.misexecuted outcome misfit mixed)

/-- **An operation that leaves a link open leaves it between two frames**, unless it disturbs it. -/
theorem after_aligned (operation : Operation α) (sound : before.Sound client.binding.handshake)
    (held : (client.watched.after operation before).link = some link)
    (aligned : before.link = some link → Aligned frames (taken link.1 before.device.calls))
    (begins : taken link.1 (client.watched.after operation before).device.calls <+:
      frames.flatten) :
    Aligned frames (taken link.1 (client.watched.after operation before).device.calls) ∨
      Disturbs client frames link before operation := by
  cases operation with
  | connect => exact .inl (client.connect_connects.aligned whole sound held aligned begins)
  | write request => exact .inl (write_aligned held aligned)
  | read request => exact read_aligned framed whole held aligned begins
  | execute request => exact execute_aligned framed whole sound held aligned begins
  | close =>
    rw [show (client.watched.after .close before).link = none from
      client.watched.link_of_close before] at held
    cases held

end

/-! ## Runs -/

section

variable {device : δ} (framed : Framed α) (whole : ∀ frame ∈ frames, Whole frame)

include framed whole

/-- The run from where some operations were done. -/
theorem aligned_of_run (operations : List (Operation α))
    (kept : client.Keeps (fun _ => True) (.start (.fresh device)) before)
    (held : (client.watched.run operations before).link = some link)
    (aligned : before.link = some link → Aligned frames (taken link.1 before.device.calls))
    (begins : taken link.1 (client.watched.run operations before).device.calls <+:
      frames.flatten) :
    Aligned frames (taken link.1 (client.watched.run operations before).device.calls) ∨
      ∃ earlier operation later, operations = earlier ++ operation :: later ∧
        (client.watched.run (earlier ++ [operation]) before).link = some link ∧
        Disturbs client frames link (client.watched.run earlier before) operation := by
  induction operations generalizing before with
  | nil => exact .inl (aligned held)
  | cons operation operations ih =>
    have first : client.Keeps (fun _ => True) before (client.watched.after operation before) :=
      client.after_keeps operation (fun _ _ => trivial) kept.honest
    have rest : client.Keeps (fun _ => True) _ (client.watched.run operations _) :=
      client.run_keeps operations (fun _ _ _ _ => trivial) first.honest
    -- Either the link is held after the first operation, or it is opened later.
    by_cases own : (client.watched.after operation before).link = some link
    · have part := (taken_grows rest.entries.calls_grow).trans begins
      rcases after_aligned framed whole operation kept.sound own aligned part with
        still | disturbs
      · rcases ih (kept.trans first) held (fun _ => still) begins with
          done | ⟨earlier, other, later, rfl, later_held, disturbs⟩
        · exact .inl done
        · exact .inr ⟨operation :: earlier, other, later, rfl, later_held, disturbs⟩
      · exact .inr ⟨[], operation, operations, rfl, own, disturbs⟩
    · rcases ih (kept.trans first) held (fun same => absurd same own) begins with
        done | ⟨earlier, other, later, rfl, later_held, disturbs⟩
      · exact .inl done
      · exact .inr ⟨operation :: earlier, other, later, rfl, later_held, disturbs⟩

end

/-- **An open link is at the bound of a frame**, unless it was disturbed. If the device sends one
whole frame after the other on a link that is open after a run, then a whole number of frames was
taken off it, or an operation of the run that left it open has disturbed it. -/
theorem run_aligned {π : Type} [Payload π ρ] (client : Client ℓ δ) (device : δ)
    (operations : List (Operation (Encapsulated π))) (whole : ∀ frame ∈ frames, Whole frame)
    (held : (client.watched.run operations (.start (.fresh device))).link = some link)
    (delivers : taken link.1
      (client.watched.run operations (.start (.fresh device))).device.calls <+: frames.flatten) :
    let start : Connection (Nat × ℓ) (Watched δ) := .start (.fresh device)
    let watched := client.watched.run operations start
    let connection := client.run operations (.start device)
    (watched.device.device = connection.device ∧ connection.isOpen = true) ∧
    (Aligned frames (taken link.1 watched.device.calls) ∨
      ∃ earlier operation later, operations = earlier ++ operation :: later ∧
        (client.watched.run (earlier ++ [operation]) start).link = some link ∧
        Disturbs client frames link (client.watched.run earlier start) operation) := by
  intro start watched connection
  have related : client.watching.Related watched connection := client.watched_run operations device
  have started : client.Keeps (fun _ => True) (.start (.fresh device)) start := .refl (.start _)
  have kept : client.Keeps (fun _ => True) start watched :=
    client.run_keeps operations (fun _ _ _ _ => trivial) started.honest
  refine ⟨⟨related.device, ?_⟩, ?_⟩
  · rw [← related.isOpen, kept.honest.isOpen, held]
    rfl
  · exact aligned_of_run Encapsulated.framed whole operations started held nofun delivers

end Client

/-- A session is registered, a request is executed, and another one is sent and its reply read by
hand. All three frames come in pieces. -/
theorem run_aligned_seven :
    let client : Client Unit Rehearsal.Device :=
      ⟨Rehearsal.binding true, .device "device" 0, ⟨.ofMillis 500, Draws.cycle []⟩⟩
    let echo : Rehearsal.Echo := { Rehearsal.Echo.register 7 with chunk := some 9 }
    let answer : Rehearsal.Answer := .deliver (some echo) []
    let device : Rehearsal.Device :=
      { Rehearsal.Device.mute with registers := [answer], replies := [answer, answer] }
    let request : Encapsulated Bytes :=
      { command := .sendRequestReply, session := 7, payload := [2] }
    let reply : Bytes := [0x6f, 0, 4, 0, 7, 0, 0, 0] ++ List.replicate 16 0 ++ [1, 0, 0, 0]
    let frames := [RegisterSession.replyOfSeven, reply, reply]
    let watched := client.watched.run [.connect, .execute request, .write request, .read request]
      (.start (.fresh device))
    watched.link = some (0, ()) ∧ taken 0 watched.device.calls = frames.flatten ∧
      (pieces 0 watched.device.calls).length = 12 ∧
      Aligned frames (taken 0 watched.device.calls) := by
  intro client echo answer device request reply frames watched
  have held : watched.link = some (0, ()) := by decide +kernel
  have all : taken 0 watched.device.calls = frames.flatten := by decide +kernel
  have count : (pieces 0 watched.device.calls).length = 12 := by decide +kernel
  have whole : ∀ frame ∈ frames, Whole frame := by
    intro frame member
    rcases List.mem_cons.1 member with rfl | member
    · exact ⟨by decide, by decide⟩
    · obtain rfl : frame = reply := by simpa using member
      exact ⟨by decide, by decide⟩
  have delivers : taken 0 watched.device.calls <+: frames.flatten := all ▸ List.prefix_refl _
  refine ⟨held, all, count, ?_⟩
  rcases (client.run_aligned device _ whole held delivers).2 with
    aligned | ⟨earlier, operation, later, split, -, disturbs⟩
  · simpa only [watched] using aligned
  · -- The execution and the read end well, so none of the four operations disturbs the link.
    let opening : List (Operation (Encapsulated Bytes)) := [.connect]
    have executed : (client.watched.execute request
        (client.watched.run opening (.start (.fresh device)))).1 = .done [1, 0, 0, 0] := by
      decide +kernel
    have received : Outcome.ofResult (client.watched.read request
        (client.watched.run (opening ++ [.execute request, .write request])
          (.start (.fresh device)))).1 = .done [1, 0, 0, 0] := by
      decide +kernel
    rcases earlier with _ | ⟨_, _ | ⟨_, _ | ⟨_, _ | ⟨_, _ | ⟨_, _⟩⟩⟩⟩⟩
    all_goals cases split
    all_goals cases disturbs
    case interrupted failed _ | misread failed _ =>
      cases (congrArg Outcome.ofResult failed).symm.trans received
    case misexecuted failed _ => cases failed.symm.trans executed

/-- A frame with no payload. -/
def emptyReply : Bytes := 0x6f :: List.replicate 23 0

/-- A reply of which a part comes and then a fault. The link stays open when it is read by itself,
and the rest of it is yet to come. -/
theorem read_within_frame :
    let client : Client Unit Rehearsal.Device :=
      ⟨Rehearsal.binding false, .device "device" 0, ⟨.ofMillis 500, Draws.cycle []⟩⟩
    let device : Rehearsal.Device :=
      { Rehearsal.Device.mute with
        replies := [.deliver none [.bytes (emptyReply.take 10), .fault (.timeout (.ofMillis 2000)),
          .bytes (emptyReply.drop 10)]] }
    let request : Encapsulated Bytes :=
      { command := .sendRequestReply, session := 0, payload := [] }
    let before := client.watched.run [.connect, .write request] (.start (.fresh device))
    let run := client.watched.read request before
    Whole emptyReply ∧ run.1 = .error (.link (.timeout (.ofMillis 2000))) ∧
      run.2.isOpen = true ∧ run.2.link = some (0, ()) ∧
      taken 0 run.2.device.calls = emptyReply.take 10 ∧
      ¬Aligned [emptyReply] (taken 0 run.2.device.calls) := by
  intro client device request before run
  have part : taken 0 run.2.device.calls = emptyReply.take 10 := by decide +kernel
  have failed : Outcome.ofResult run.1 = .failed (.link (.timeout (.ofMillis 2000))) := by
    decide +kernel
  refine ⟨⟨by decide, by decide⟩, ?_, ?_, ?_, part, ?_⟩
  · rcases result : run.1 with error | reply
    all_goals
      rw [result] at failed
      cases failed
    rfl
  · decide +kernel
  · decide +kernel
  · rw [part]
    rintro ⟨n, same⟩
    cases n with
    | zero => exact absurd same (by decide)
    | succ n => exact absurd same (by simp [emptyReply])

/-- A reply that comes in one piece with the beginning of the next is none, and the link stays open
after it. -/
theorem execute_across_frames :
    let client : Client Unit Rehearsal.Device :=
      ⟨Rehearsal.binding false, .device "device" 0, ⟨.ofMillis 500, Draws.cycle []⟩⟩
    let device : Rehearsal.Device :=
      { Rehearsal.Device.mute with
        replies := [.deliver none [.bytes (emptyReply ++ emptyReply.take 2),
          .bytes (emptyReply.drop 2)]] }
    let request : Encapsulated Bytes :=
      { command := .sendRequestReply, session := 0, payload := [] }
    let run := client.watched.execute request (.start (.fresh device))
    run.1 = .failed (.frame (.trailing 24 26)) ∧ run.2.2.isOpen = true ∧
      run.2.2.link = some (0, ()) ∧
      taken 0 run.2.2.device.calls = emptyReply ++ emptyReply.take 2 ∧
      ¬Aligned [emptyReply, emptyReply] (taken 0 run.2.2.device.calls) := by
  intro client device request run
  have both : taken 0 run.2.2.device.calls = emptyReply ++ emptyReply.take 2 := by
    decide +kernel
  refine ⟨by decide +kernel, by decide +kernel, by decide +kernel, both, ?_⟩
  rw [both]
  rintro ⟨_ | _ | n, same⟩
  · exact absurd same (by decide)
  · exact absurd same (by decide)
  · rw [List.take_succ_cons, List.take_succ_cons, List.take_nil] at same
    exact absurd same (by decide)

end Enip
