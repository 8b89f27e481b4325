import Enip.Json.Skip
import Enip.Settings.Basic

/-!
# Settings as JSON

Settings are written as an object with all six fields and no blanks (`Settings.json`). They are
read (`Settings.ofJson`) from an object with the fields in any order, of which only the address
and the slot have to be there; other fields are passed over, and no field of the settings may be
there twice. They are also read from a list of the values in the order in which they are written,
of which any at the end may be left out, again but for the address and the slot.

A text is read from front to back and the first fault counts.
-/

namespace Enip.Settings

open Json

/-! ## Fields -/

/-- The fields of the settings, as JSON knows them. -/
inductive Field where
  | address
  | port
  | slot
  | timeout
  | retries
  | retryDelay
deriving DecidableEq

namespace Field

/-- All fields, in the order in which they are written. -/
def all : List Field := [address, port, slot, timeout, retries, retryDelay]

/-- The key of a field. -/
def key : Field → List Char
  | address => "address".toList
  | port => "port".toList
  | slot => "slot".toList
  | timeout => "timeout_ms".toList
  | retries => "retries".toList
  | retryDelay => "retry_delay_ms".toList

/-- The field with a given key, if there is one. -/
def ofKey? (key : List Char) : Option Field := all.find? fun field => field.key = key

end Field

/-! ## Writing -/

/-- The value of a field as it is written. -/
def fieldText (settings : Settings) : Field → List Char
  | .address => quoted settings.address.toList
  | .port => Nat.toDigits 10 settings.port.toNat
  | .slot => Nat.toDigits 10 settings.slot.toNat
  | .timeout => Nat.toDigits 10 settings.timeoutMillis.toNat
  | .retries => Nat.toDigits 10 settings.retries.toNat
  | .retryDelay => Nat.toDigits 10 settings.retryDelayMillis.toNat

/-- A field with its key as it is written. -/
def memberText (settings : Settings) (field : Field) : List Char :=
  quoted field.key ++ ':' :: settings.fieldText field

/-- The settings as JSON text. -/
def json (settings : Settings) : String :=
  String.ofList ('\x7b' :: [','].intercalate (Field.all.map settings.memberText) ++ ['\x7d'])

/-! ## Reading values -/

/-- The fault of a value that is of another kind than the one asked for: the first that is met
when it is read, or else that it does not fit. A list or an object is not even read. -/
def misfit : List Char → Fault
  | [] => .early
  | c :: rest =>
    let fault {α : Type} : Except Fault α → Fault
      | .error fault => fault
      | .ok _ => .unfit
    if c = '"' then fault (readString [] rest)
    else if c = 'n' then fault (passWord ['u', 'l', 'l'] rest)
    else if c = 't' then fault (passWord ['r', 'u', 'e'] rest)
    else if c = 'f' then fault (passWord ['a', 'l', 's', 'e'] rest)
    else if c = '-' then fault (readNumber true rest)
    else if c.isDigit then fault (readNumber false (c :: rest))
    else if c = '[' ∨ c = '\x7b' then .unfit
    else .malformed

/-- Reads a string. -/
def readText (text : List Char) : Except Fault (String × List Char) :=
  match skipBlanks text with
  | '"' :: rest => (readString [] rest).map fun (s, rest) => (String.ofList s, rest)
  | other => .error (misfit other)

/-- Reads a natural number below a bound. -/
def readNatural (bound : Nat) (text : List Char) : Except Fault (Nat × List Char) :=
  match skipBlanks text with
  | [] => .error .early
  | c :: rest =>
    if c.isDigit then
      match readNumber false (c :: rest) with
      | .ok (some n, rest) => if n < bound then .ok (n, rest) else .error .unfit
      | .ok (none, _) => .error .unfit
      | .error fault => .error fault
    else .error (misfit (c :: rest))

theorem length_le_of_readText {text rest : List Char} {s : String}
    (h : readText text = .ok (s, rest)) : rest.length ≤ text.length := by
  unfold readText at h
  split at h
  · next quoted start =>
    have := length_lt_of_skipBlanks start
    cases read : readString [] quoted with
    | error fault => simp [read, Except.map] at h
    | ok found =>
      have := length_le_of_readString read
      simp only [read, Except.map, Except.ok.injEq, Prod.mk.injEq] at h
      rw [← h.2]
      omega
  · simp at h

theorem length_le_of_readNatural {bound n : Nat} {text rest : List Char}
    (h : readNatural bound text = .ok (n, rest)) : rest.length ≤ text.length := by
  have blanks := length_skipBlanks_le text
  unfold readNatural at h
  split at h
  · simp at h
  · next start =>
    rw [start] at blanks
    split at h
    · split at h
      · next read =>
        have := length_lt_of_readNumber read
        split at h
        · simp only [Except.ok.injEq, Prod.mk.injEq] at h
          rw [← h.2]
          omega
        · simp at h
      · simp at h
      · simp at h
    · simp at h

/-! ## Reading fields -/

/-- The fields that have been read. -/
structure Draft where
  address : Option String := none
  port : Option UInt16 := none
  slot : Option UInt8 := none
  timeout : Option UInt64 := none
  retries : Option UInt32 := none
  retryDelay : Option UInt64 := none

namespace Draft

/-- Whether a field has been read. -/
def holds (draft : Draft) : Field → Bool
  | .address => draft.address.isSome
  | .port => draft.port.isSome
  | .slot => draft.slot.isSome
  | .timeout => draft.timeout.isSome
  | .retries => draft.retries.isSome
  | .retryDelay => draft.retryDelay.isSome

/-- Reads the value of a field. -/
def read (draft : Draft) (field : Field) (text : List Char) : Except Fault (Draft × List Char) :=
  match field with
  | .address => (readText text).map fun (s, rest) => ({ draft with address := some s }, rest)
  | .port => (readNatural 65536 text).map fun (n, rest) =>
      ({ draft with port := some (.ofNat n) }, rest)
  | .slot => (readNatural 256 text).map fun (n, rest) =>
      ({ draft with slot := some (.ofNat n) }, rest)
  | .timeout => (readNatural 18446744073709551616 text).map fun (n, rest) =>
      ({ draft with timeout := some (.ofNat n) }, rest)
  | .retries => (readNatural 4294967296 text).map fun (n, rest) =>
      ({ draft with retries := some (.ofNat n) }, rest)
  | .retryDelay => (readNatural 18446744073709551616 text).map fun (n, rest) =>
      ({ draft with retryDelay := some (.ofNat n) }, rest)

theorem length_le_of_read {draft longer : Draft} {field : Field} {text rest : List Char}
    (h : draft.read field text = .ok (longer, rest)) : rest.length ≤ text.length := by
  have natural (bound : Nat) (f : Nat → Draft)
      (h : (readNatural bound text).map (fun (n, rest) => (f n, rest)) = .ok (longer, rest)) :
      rest.length ≤ text.length := by
    cases got : readNatural bound text with
    | error fault => simp [got, Except.map] at h
    | ok found =>
      have := length_le_of_readNatural got
      simp only [got, Except.map, Except.ok.injEq, Prod.mk.injEq] at h
      exact h.2 ▸ this
  cases field with
  | address =>
    cases got : readText text with
    | error fault => simp [read, got, Except.map] at h
    | ok found =>
      have := length_le_of_readText got
      simp only [read, got, Except.map, Except.ok.injEq, Prod.mk.injEq] at h
      exact h.2 ▸ this
  | port => exact natural 65536 (fun n => { draft with port := some (.ofNat n) }) h
  | slot => exact natural 256 (fun n => { draft with slot := some (.ofNat n) }) h
  | timeout =>
    exact natural 18446744073709551616 (fun n => { draft with timeout := some (.ofNat n) }) h
  | retries => exact natural 4294967296 (fun n => { draft with retries := some (.ofNat n) }) h
  | retryDelay =>
    exact natural 18446744073709551616 (fun n => { draft with retryDelay := some (.ofNat n) }) h

/-- The settings with the fields that have been read and defaults for the others. The address and
the slot have none. -/
def settings (draft : Draft) : Except Fault Settings :=
  match draft.address, draft.slot with
  | some address, some slot =>
    .ok { address, slot,
          port := draft.port.getD defaultPort,
          timeoutMillis := draft.timeout.getD defaultTimeoutMillis,
          retries := draft.retries.getD defaultRetries,
          retryDelayMillis := draft.retryDelay.getD defaultRetryDelayMillis }
  | _, _ => .error .unfit

/-! ## Reading objects and lists -/

/-- The text after a colon. -/
def passColon (text : List Char) : Except Fault (List Char) :=
  match skipBlanks text with
  | [] => .error .early
  | ':' :: rest => .ok rest
  | _ => .error .malformed

/-- Reads a key and its value. -/
def readMember (draft : Draft) (text : List Char) : Except Fault (Draft × List Char) :=
  match skipBlanks text with
  | [] => .error .early
  | '"' :: rest => do
    let (key, rest) ← readString [] rest
    match Field.ofKey? key with
    | some field =>
      if draft.holds field then throw .unfit
      draft.read field (← passColon rest)
    | none => pure (draft, ← skipValue (← passColon rest))
  | _ => .error .malformed

theorem length_lt_of_passColon {text rest : List Char} (h : passColon text = .ok rest) :
    rest.length < text.length := by
  unfold passColon at h
  split at h
  · simp at h
  · next start =>
    simp only [Except.ok.injEq] at h
    exact h ▸ length_lt_of_skipBlanks start
  · simp at h

theorem length_lt_of_readMember {draft longer : Draft} {text rest : List Char}
    (h : draft.readMember text = .ok (longer, rest)) : rest.length < text.length := by
  unfold readMember at h
  split at h
  · simp at h
  · next quoted start =>
    have := length_lt_of_skipBlanks start
    cases keyed : readString [] quoted with
    | error fault => simp [keyed, bind, Except.bind] at h
    | ok found =>
      have := length_le_of_readString keyed
      simp only [keyed, bind, Except.bind] at h
      cases colon : passColon found.2 with
      | error fault =>
        simp only [colon] at h
        split at h
        · split at h <;> simp [throw, throwThe, MonadExceptOf.throw] at h
        · simp at h
      | ok after =>
        have := length_lt_of_passColon colon
        simp only [colon] at h
        split at h
        · split at h
          · simp [throw, throwThe, MonadExceptOf.throw] at h
          · have := length_le_of_read h
            omega
        · cases skipped : skipValue after with
          | error fault => simp [skipped] at h
          | ok last =>
            have := length_le_of_skipValue skipped
            simp only [skipped, pure, Except.pure, Except.ok.injEq, Prod.mk.injEq] at h
            rw [← h.2]
            omega
  · simp at h

/-- Reads the fields of an object to its end, after its opening bracket or after a field. -/
def readMembers (first : Bool) (draft : Draft) (text : List Char) :
    Except Fault (Draft × List Char) :=
  match _start : skipBlanks text with
  | [] => .error .early
  | c :: rest =>
    if c = '\x7d' then .ok (draft, rest)
    else if ¬first ∧ c ≠ ',' then .error .malformed
    else
      match _read : draft.readMember (if first then c :: rest else rest) with
      | .error fault => .error fault
      | .ok (draft, rest) => readMembers false draft rest
termination_by text.length
decreasing_by
  have read := length_lt_of_readMember _read
  have start := length_skipBlanks_le text
  rw [_start] at start
  split at read <;> simp only [List.length_cons] at read start <;> omega

/-- Reads the values of a list to its end, after its opening bracket or after a value: at most
one for each of the given fields. -/
def readElements (first : Bool) : List Field → Draft → List Char → Except Fault (Draft × List Char)
  | [], draft, text =>
    match skipBlanks text with
    | [] => .error .early
    | ']' :: rest => .ok (draft, rest)
    | _ => .error .malformed
  | field :: fields, draft, text =>
    match skipBlanks text with
    | [] => .error .early
    | ']' :: rest => .ok (draft, rest)
    | c :: rest => do
      let value ←
        if first then pure (c :: rest)
        else if c ≠ ',' then throw .malformed
        else match skipBlanks rest with
          | [] => throw .early
          | ']' :: _ => throw .malformed
          | value => pure value
      let (draft, rest) ← draft.read field value
      readElements false fields draft rest

end Draft

/-- The settings that a JSON text holds. -/
def ofJson (text : String) : Except Fault Settings := do
  let (draft, rest) ← match skipBlanks text.toList with
    | '\x7b' :: rest => Draft.readMembers true {} rest
    | '[' :: rest => Draft.readElements true Field.all {} rest
    | other => throw (misfit other)
  let settings ← draft.settings
  if skipBlanks rest ≠ [] then throw .malformed
  pure settings

end Enip.Settings
