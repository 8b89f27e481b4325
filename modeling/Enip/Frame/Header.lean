import Enip.Frame.Buffer

/-!
# Headers and frames

Every frame begins with a header of 24 bytes:

```text
+---------+--------+---------+--------+---------+---------+------------+
| command | length | session | status | context | options | payload... |
|    2    |   2    |    4    |   4    |    8    |    4    |   length   |
+---------+--------+---------+--------+---------+---------+------------+
```

`Header.encode` writes a header field by field and `Header.parse` reads one. The length counts
the payload alone, so that `frameSize` knows the size of the whole frame from its first four
bytes. The context is read as one number and kept as the bytes of it. `Reply.split` takes a frame
apart that is to answer a given command.
-/

namespace Enip

/-- Eight bytes that a device sends back as it got them. -/
abbrev Context := { bytes : Bytes // bytes.length = 8 }

/-- The context of a request that sets none. -/
def Context.zero : Context := ⟨[0, 0, 0, 0, 0, 0, 0, 0], rfl⟩

/-- The context with the bytes of a number. -/
def Context.ofNumber (number : UInt64) : Context :=
  ⟨Bytes.littleEndian 8 number.toNat, Bytes.length_littleEndian 8 number.toNat⟩

/-- What stands before the payload of a frame. -/
structure Header where
  command : Command
  /-- The number of bytes after the header. -/
  length : UInt16
  session : SessionId
  status : Status
  context : Context
  options : UInt32
deriving DecidableEq

namespace Header

/-- The size of a header. -/
def size : Nat := 24

/-- The header of a request with no context and no options. -/
def request (command : Command) (length : UInt16) (session : SessionId) : Header :=
  { command, length, session, status := .success, context := Context.zero, options := 0 }

/-- The size of the frame that the header announces. -/
def frameSize (header : Header) : Nat := size + header.length.toNat

/-- Appends a header to a buffer. Where the buffer ends, the fields that fit stay. -/
def encode (header : Header) (buffer : FrameBuffer) : FrameBuffer.Written :=
  buffer.putShort header.command.code
    |>.andThen (·.putShort header.length)
    |>.andThen (·.putLong header.session)
    |>.andThen (·.putLong header.status.code)
    |>.andThen (·.put header.context.val)
    |>.andThen (·.putLong header.options)

/-! ## Reading -/

/-- The fields of a header as they are read, before the command code is looked up. -/
structure Raw where
  code : UInt16
  length : UInt16
  session : SessionId
  status : UInt32
  context : UInt64
  options : UInt32

/-- The fields at the front of `data`, and what follows them, if there are 24 bytes. -/
def Raw.read? (data : Bytes) : Option (Raw × Bytes) := do
  let (code, data) ← Bytes.readNat? 2 data
  let (length, data) ← Bytes.readNat? 2 data
  let (session, data) ← Bytes.readNat? 4 data
  let (status, data) ← Bytes.readNat? 4 data
  let (context, data) ← Bytes.readNat? 8 data
  let (options, data) ← Bytes.readNat? 4 data
  pure ({ code := .ofNat code, length := .ofNat length, session := .ofNat session,
          status := .ofNat status, context := .ofNat context, options := .ofNat options }, data)

/-- The header with the given fields and a command for its code. -/
def Raw.withCommand (raw : Raw) (command : Command) : Header :=
  { command, length := raw.length, session := raw.session, status := .ofCode raw.status,
    context := .ofNumber raw.context, options := raw.options }

/-- The header at the front of `data`, and what follows it. -/
def parse (data : Bytes) : Except FrameError (Header × Bytes) :=
  match Raw.read? data with
  | none => .error (.truncated size data.length)
  | some (raw, rest) =>
    match Command.ofCode? raw.code with
    | none => .error (.unknownCommand raw.code)
    | some command => .ok (raw.withCommand command, rest)

end Header

/-- The size of the frame that begins with the bytes received so far. Before the length has come
it is the size of a header, which is more than there are. -/
def frameSize : Bytes → Nat
  | _ :: _ :: low :: high :: _ => Header.size + (low.toNat + 256 * high.toNat)
  | _ => Header.size

/-- Takes a frame apart that is to be the answer to `command`: the header, and the payload.
The frame has to echo the command, report success, and be as long as it announces. -/
def Reply.split (data : Bytes) (command : Command) : Except FrameError (Header × Bytes) := do
  let (header, payload) ← Header.parse data
  if header.command ≠ command then
    throw (.unexpectedCommand command header.command)
  if header.status ≠ .success then
    throw (.refused header.status)
  if data.length < header.frameSize then
    throw (.truncated header.frameSize data.length)
  if header.frameSize < data.length then
    throw (.trailing header.frameSize data.length)
  return (header, payload)

end Enip
