import Enip.Proofs.Reassembly
import Enip.Proofs.Replies

/-!
# Which reply registers a session

The reply to the request for a session is read in two stages. First it is taken apart like any other
reply, with the objections that a request in no session would raise (`Reply.split_error_iff`,
`Reply.split_ok_iff`). Then its payload has to be a version and option flags and nothing else, with
the version that was asked for, and its header has to name a session
(`RegisterSession.decode_of_split`). Together that is one form of 28 bytes in which all but the
context and the two kinds of options is fixed (`RegisterSession.Registers`).
-/

namespace Enip

theorem Bytes.readNat?_of_short {width : Nat} {data : Bytes} (short : data.length < width) :
    Bytes.readNat? width data = none := by
  rw [Bytes.readNat?, Bytes.readBytes?_eq_none_iff.2 short]
  rfl

theorem fieldAt_drop (start offset width : Nat) (data : Bytes) :
    fieldAt offset width (data.drop start) = fieldAt (start + offset) width data := by
  rw [fieldAt, fieldAt, List.drop_drop]

/-! ## Taking a reply apart -/

namespace Reply

variable {command : Command} {data : Bytes}

/-- A reply is taken apart unless there is an objection to it. -/
theorem split_eq (command : Command) (data : Bytes) :
    (split data command).map Prod.snd =
      (objection? command 0 data).elim (.ok (data.drop Header.size)) .error := by
  -- What a request in no session asks of its reply is asked when the reply is taken apart.
  let probe : Encapsulated Bytes := { command, session := 0, payload := [] }
  have read : probe.decode data = (split data command).map Prod.snd := by
    rw [Encapsulated.decode]
    rcases split data command with fault | ⟨header, payload⟩
    · rfl
    · rfl
  rw [← read]
  exact probe.decode_eq data

/-- It is refused for the first objection to it. -/
theorem split_error_iff {fault : FrameError} :
    split data command = .error fault ↔ objection? command 0 data = some fault := by
  have same := split_eq command data
  constructor
  · intro refused
    rw [refused] at same
    rcases found : objection? command 0 data with _ | objection
    all_goals
      rw [found] at same
      cases same
    rfl
  · intro found
    rw [found] at same
    rcases taken : split data command with failure | _
    all_goals
      rw [taken] at same
      cases same
    rfl

/-- It is taken apart if it is accepted in no session. -/
theorem split_ok_iff :
    (∃ header payload, split data command = .ok (header, payload)) ↔ Accepted command 0 data := by
  rw [← objection?_eq_none_iff]
  constructor
  · rintro ⟨header, payload, taken⟩
    refine Option.eq_none_iff_forall_ne_some.2 fun fault found => ?_
    rw [split_error_iff.2 found] at taken
    cases taken
  · intro none
    rcases taken : split data command with fault | ⟨header, payload⟩
    · rw [split_error_iff.1 taken] at none
      cases none
    · exact ⟨header, payload, rfl⟩

end Reply

/-! ## Reading the session -/

namespace RegisterSession

variable {data payload : Bytes} {header : Header}

/-- Where the reply cannot be taken apart, nothing else is looked at. -/
theorem decode_of_split_error {fault : FrameError}
    (refused : Reply.split data .registerSession = .error fault) : decode data = .error fault := by
  simp only [decode, refused, bind, Except.bind]

/-- The payload is looked at first, and then the session. -/
theorem decode_of_split (taken : Reply.split data .registerSession = .ok (header, payload)) :
    decode data =
      if payload.length < 4 then .error (.truncated 28 data.length)
      else if 4 < payload.length then .error (.malformed "oversized register session reply")
      else if fieldAt 0 2 payload ≠ 1 then
        .error (.malformed "protocol version mismatch in register reply")
      else if header.session = 0 then .error (.malformed "device assigned session 0")
      else .ok header.session := by
  by_cases short : payload.length < 4
  · rw [if_pos short]
    by_cases shorter : payload.length < 2
    · simp only [decode, taken, bind, Except.bind, Bytes.readNat?_of_short shorter]
      rfl
    · have version := Bytes.readNat?_drop (show 0 + 2 ≤ payload.length by omega)
      have flags : Bytes.readNat? 2 (payload.drop 2) = none :=
        Bytes.readNat?_of_short (by rw [List.length_drop]; omega)
      rw [List.drop_zero] at version
      simp only [decode, taken, bind, Except.bind, version, flags]
      rfl
  · rw [if_neg short]
    have version := Bytes.readNat?_drop (show 0 + 2 ≤ payload.length by omega)
    have flags := Bytes.readNat?_drop (show 2 + 2 ≤ payload.length by omega)
    have rest : payload.drop 4 ≠ [] ↔ 4 < payload.length := by
      rw [ne_eq, List.drop_eq_nil_iff, Nat.not_le]
    rw [List.drop_zero] at version
    simp only [decode, taken, bind, Except.bind, version, flags]
    split
    · rename_i more
      rw [if_pos (rest.1 more)]
      rfl
    · rename_i all
      rw [if_neg fun more => all (rest.2 more)]
      rfl

/-- Of the faults of a payload only the first has to do with bytes that are missing. -/
theorem decode_truncated_iff {expected actual : Nat}
    (taken : Reply.split data .registerSession = .ok (header, payload)) :
    decode data = .error (.truncated expected actual) ↔
      payload.length < 4 ∧ expected = 28 ∧ actual = data.length := by
  rw [decode_of_split taken]
  by_cases short : payload.length < 4
  · rw [if_pos short]
    constructor
    · rintro ⟨⟩
      exact ⟨short, rfl, rfl⟩
    · rintro ⟨-, rfl, rfl⟩
      rfl
  · rw [if_neg short]
    refine ⟨fun failed => ?_, fun cut => absurd cut.1 short⟩
    split at failed
    · cases failed
    · split at failed
      · cases failed
      · split at failed
        · cases failed
        · cases failed

/-- A session is read where none of them is found. -/
theorem decode_ok_iff_of_split {session : SessionId}
    (taken : Reply.split data .registerSession = .ok (header, payload)) :
    decode data = .ok session ↔ payload.length = 4 ∧ fieldAt 0 2 payload = 1 ∧
      header.session = session ∧ session ≠ 0 := by
  rw [decode_of_split taken]
  constructor
  · intro decoded
    split at decoded
    · cases decoded
    · rename_i enough
      split at decoded
      · cases decoded
      · rename_i all
        split at decoded
        · cases decoded
        · rename_i version
          split at decoded
          · cases decoded
          · rename_i nonzero
            cases decoded
            exact ⟨by omega, Decidable.not_not.1 version, rfl, nonzero⟩
  · rintro ⟨four, version, rfl, nonzero⟩
    rw [if_neg (by omega), if_neg (by omega), if_neg (not_not_intro version), if_neg nonzero]

/-- The form of a reply that registers a session. -/
structure Registers (session : SessionId) (data : Bytes) : Prop where
  /-- There is a header, and a payload of four bytes. -/
  length : data.length = 28
  command : fieldAt 0 2 data = 0x65
  announced : fieldAt 2 2 data = 4
  status : fieldAt 8 4 data = 0
  named : fieldAt 4 4 data = session.toNat
  nonzero : session ≠ 0
  /-- The payload begins with the version that was asked for. -/
  version : fieldAt 24 2 data = 1

/-- A session is read from replies of this form and from no others. -/
theorem decode_ok_iff {session : SessionId} :
    decode data = .ok session ↔ Registers session data := by
  constructor
  · intro decoded
    rcases taken : Reply.split data .registerSession with fault | ⟨header, payload⟩
    · rw [decode_of_split_error taken] at decoded
      cases decoded
    · obtain ⟨long, command, status, announced, -⟩ := Reply.split_ok_iff.1 ⟨header, payload, taken⟩
      obtain ⟨-, rfl, named⟩ := Reply.split_ok taken
      obtain ⟨four, version, rfl, nonzero⟩ := (decode_ok_iff_of_split taken).1 decoded
      rw [fieldAt_drop] at version
      rw [List.length_drop] at four
      unfold Header.size at long four announced
      exact ⟨by omega, command, by omega, status, Header.ofNat_fieldAt_eq_iff.1 named.symm, nonzero,
        version⟩
  · rintro ⟨length, command, announced, status, named, nonzero, version⟩
    obtain ⟨header, payload, taken⟩ := Reply.split_ok_iff.2
      (⟨by rw [Header.size]; omega, command, status, by rw [Header.size]; omega, .inl rfl⟩ :
        Reply.Accepted .registerSession 0 data)
    obtain ⟨-, rfl, session⟩ := Reply.split_ok taken
    refine (decode_ok_iff_of_split taken).2 ⟨?_, ?_, ?_, nonzero⟩
    · rw [List.length_drop, length]
      rfl
    · rw [fieldAt_drop]
      exact version
    · rw [session, Header.ofNat_fieldAt_eq_iff.2 named]

/-- **Which reply registers a session, and what is wrong with any other.** A session is registered
by one form of reply. A reply that can be taken apart and is not of this form has a payload that is
too short, or else too long, or else of another version, or else it names no session. Any other is
refused as it would be in reply to another request. -/
theorem reply_exact (data : Bytes) :
    (∀ session, Request.decode RegisterSession.mk data = .ok session ↔ Registers session data) ∧
    (∀ header payload, Reply.split data .registerSession = .ok (header, payload) →
      (Request.decode RegisterSession.mk data = .error (.truncated 28 data.length) ↔
        payload.length < 4) ∧
      (4 < payload.length → Request.decode RegisterSession.mk data =
        .error (.malformed "oversized register session reply")) ∧
      (payload.length = 4 → fieldAt 0 2 payload ≠ 1 → Request.decode RegisterSession.mk data =
        .error (.malformed "protocol version mismatch in register reply")) ∧
      (payload.length = 4 → fieldAt 0 2 payload = 1 → header.session = 0 →
        Request.decode RegisterSession.mk data = .error (.malformed "device assigned session 0"))) ∧
    ∀ fault, Reply.split data .registerSession = .error fault →
      Request.decode RegisterSession.mk data = .error fault := by
  refine ⟨fun session => decode_ok_iff, fun header payload taken => ?_,
    fun fault => decode_of_split_error⟩
  have read : Request.decode RegisterSession.mk data = _ := decode_of_split taken
  refine ⟨(decode_truncated_iff taken).trans (and_iff_left ⟨rfl, rfl⟩), fun more => ?_,
    fun four other => ?_, fun four version zero => ?_⟩
  · rw [read, if_neg (by omega), if_pos more]
  · rw [read, if_neg (by omega), if_neg (by omega), if_pos other]
  · rw [read, if_neg (by omega), if_neg (by omega), if_neg (not_not_intro version), if_pos zero]

/-- A reply of which the option flags are missing, and one that registers session 7. -/
theorem reply_exact_short :
    let short : Bytes := [0x65, 0, 2, 0, 3, 0, 0, 0] ++ List.replicate 16 0 ++ [1, 0]
    (∃ header, Reply.split short .registerSession = .ok (header, [1, 0])) ∧
      Request.decode RegisterSession.mk short = .error (.truncated 28 26) ∧
      Registers 7 replyOfSeven ∧ Request.decode RegisterSession.mk replyOfSeven = .ok 7 := by
  intro short
  have taken : Reply.split short .registerSession =
      .ok ({ Header.request .registerSession 2 3 with context := Context.zero }, [1, 0]) := by cbv
  have seven : Registers 7 replyOfSeven := by
    refine ⟨?_, ?_, ?_, ?_, ?_, ?_, ?_⟩
    all_goals decide
  exact ⟨⟨_, taken⟩, ((reply_exact short).2.1 _ _ taken).1.2 (by decide), seven,
    ((reply_exact replyOfSeven).1 7).2 seven⟩

end RegisterSession

end Enip
