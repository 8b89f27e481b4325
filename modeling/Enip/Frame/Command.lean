/-!
# Encapsulation commands

The eight commands of the encapsulation layer, each with the code that stands for it in the
first two bytes of a frame. `Command.ofCode?` reads a code and is the inverse of
`Command.code` (`ofCode?_eq_some_iff`).
-/

namespace Enip

/-- What an encapsulation frame asks for, or what it answers. -/
inductive Command where
  | nop
  | listServices
  | listIdentity
  | listInterfaces
  | registerSession
  | unregisterSession
  /-- A request with a reply, outside any connection of the application layer. -/
  | sendRequestReply
  /-- Data on a connection of the application layer. -/
  | sendUnitData
deriving DecidableEq

namespace Command

/-- All commands, by code. -/
def all : List Command :=
  [nop, listServices, listIdentity, listInterfaces, registerSession, unregisterSession,
    sendRequestReply, sendUnitData]

/-- The code of a command on the wire. -/
def code : Command → UInt16
  | nop => 0x0000
  | listServices => 0x0004
  | listIdentity => 0x0063
  | listInterfaces => 0x0064
  | registerSession => 0x0065
  | unregisterSession => 0x0066
  | sendRequestReply => 0x006F
  | sendUnitData => 0x0070

/-- The command with a given code, if there is one. -/
def ofCode? (code : UInt16) : Option Command :=
  all.find? fun command => command.code = code

/-- The name of a command, as messages show it. -/
def name : Command → String
  | nop => "Nop"
  | listServices => "ListServices"
  | listIdentity => "ListIdentity"
  | listInterfaces => "ListInterfaces"
  | registerSession => "RegisterSession"
  | unregisterSession => "UnRegisterSession"
  | sendRequestReply => "SendRRData"
  | sendUnitData => "SendUnitData"

@[simp] theorem ofCode?_code (command : Command) : ofCode? command.code = some command := by
  cases command <;> rfl

/-- A code is read as a command exactly when it is the code of that command. -/
theorem ofCode?_eq_some_iff {code : UInt16} {command : Command} :
    ofCode? code = some command ↔ command.code = code := by
  constructor
  · intro found
    simpa using List.find?_some found
  · rintro rfl
    exact ofCode?_code command

theorem ofCode?_eq_none_iff {code : UInt16} :
    ofCode? code = none ↔ ∀ command : Command, command.code ≠ code := by
  simp only [Option.eq_none_iff_forall_ne_some, ne_eq, ofCode?_eq_some_iff]

end Command

end Enip
