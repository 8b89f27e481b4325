import Enip.Text.Hex

/-!
# Status codes

The status field of an encapsulation header. Seven codes have a meaning of their own, and
`Status.other` holds any other one. A code survives being read (`code_ofCode`); a status
survives being written unless it hides a named code under `other` (`ofCode_code_iff`).
-/

namespace Enip

/-- How a device took a request. -/
inductive Status where
  | success
  | invalidCommand
  | insufficientMemory
  | incorrectData
  | invalidSession
  | invalidLength
  | unsupportedProtocolVersion
  /-- A code with no meaning of its own. -/
  | other (code : UInt32)
deriving DecidableEq

namespace Status

/-- The statuses with a meaning of their own. -/
def named : List Status :=
  [success, invalidCommand, insufficientMemory, incorrectData, invalidSession, invalidLength,
    unsupportedProtocolVersion]

/-- The status that a code stands for. -/
def ofCode (code : UInt32) : Status :=
  if code = 0x0000 then success
  else if code = 0x0001 then invalidCommand
  else if code = 0x0002 then insufficientMemory
  else if code = 0x0003 then incorrectData
  else if code = 0x0064 then invalidSession
  else if code = 0x0065 then invalidLength
  else if code = 0x0069 then unsupportedProtocolVersion
  else other code

/-- The code of a status on the wire. -/
def code : Status → UInt32
  | success => 0x0000
  | invalidCommand => 0x0001
  | insufficientMemory => 0x0002
  | incorrectData => 0x0003
  | invalidSession => 0x0064
  | invalidLength => 0x0065
  | unsupportedProtocolVersion => 0x0069
  | other code => code

/-- What a status means, in words. -/
def meaning : Status → String
  | success => "success"
  | invalidCommand => "invalid or unsupported command"
  | insufficientMemory => "insufficient memory"
  | incorrectData => "incorrect data"
  | invalidSession => "invalid session handle"
  | invalidLength => "invalid length"
  | unsupportedProtocolVersion => "unsupported protocol version"
  | other _ => "unknown status"

/-- A status as messages show it: its meaning and its code. -/
def text (status : Status) : String :=
  status.meaning ++ " (" ++ Hex.shown 4 status.code.toNat ++ ")"

@[simp] theorem code_ofCode (code : UInt32) : (ofCode code).code = code := by
  unfold ofCode
  repeat' split
  all_goals simp_all [Status.code]

theorem ofCode_eq_success_iff {code : UInt32} : ofCode code = success ↔ code = 0 := by
  constructor
  · intro read
    rw [← code_ofCode code, read]
    rfl
  · rintro rfl
    rfl

/-- A code without a meaning of its own is read as itself, and no other code is. -/
theorem ofCode_eq_other_iff {code : UInt32} :
    ofCode code = other code ↔ ∀ known ∈ named, code ≠ known.code := by
  simp only [named, List.forall_mem_cons, List.not_mem_nil, false_imp_iff, implies_true, and_true,
    Status.code]
  unfold ofCode
  grind

/-- A status is read as it was written unless it hides the code of a named one. -/
theorem ofCode_code_iff {status : Status} :
    ofCode status.code = status ↔ ∀ known ∈ named, status ≠ other known.code := by
  cases status with
  | other code => simp [Status.code, ofCode_eq_other_iff]
  | _ => simp [named, Status.code, ofCode]

end Status

end Enip
