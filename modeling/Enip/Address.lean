import Enip.Address.V6
import Enip.Error.Link
import Enip.Settings.Basic

/-!
# Socket addresses

The settings of a connection name a device by an address, which may be a name, and a port. Which
socket addresses these stand for is found out by a `Lookup`, which may have to ask others. There may
be several, to be tried in turn; if there are none, the device cannot be reached
(`Settings.resolve`). Literal addresses stand for themselves (`Lookup.literal`).
-/

namespace Enip

/-- An address of either version. -/
inductive IpAddress where
  | v4 (address : Address.V4)
  | v6 (address : Address.V6)
deriving DecidableEq

/-- The address that a text stands for, if it is a literal address and nothing else. -/
def IpAddress.ofString? (text : String) : Option IpAddress :=
  match Address.V4.read text.toList with
  | some (address, []) => some (.v4 address)
  | _ =>
    match Address.V6.read text.toList with
    | some (address, []) => some (.v6 address)
    | _ => none

/-- An address and a port. -/
structure SocketAddress where
  host : IpAddress
  port : UInt16
deriving DecidableEq

/-- A socket address as it is written. An address of version six stands in brackets, for it has
colons of its own. -/
def SocketAddress.text (address : SocketAddress) : String :=
  let host := match address.host with
    | .v4 address => address.text
    | .v6 address => "[" ++ address.text ++ "]"
  host ++ ":" ++ toString address.port.toNat

/-- How socket addresses are looked up for an address and a port, in order. What has to be asked for
them is a state of type `π`. -/
abbrev Lookup (π : Type) : Type :=
  String → UInt16 → π → Except IoError (List SocketAddress) × π

/-- The look-up that asks no one. It knows literal addresses, and no names. -/
def Lookup.literal {π : Type} : Lookup π := fun address port state =>
  (.ok ((IpAddress.ofString? address).toList.map fun host => { host, port }), state)

/-- The socket addresses of the device that the settings name, the first and the others. -/
def Settings.resolve {π : Type} (settings : Settings) (lookup : Lookup π) (state : π) :
    Except LinkError (SocketAddress × List SocketAddress) × π :=
  match lookup settings.address settings.port state with
  | (.ok (first :: others), state) => (.ok (first, others), state)
  | (_, state) => (.error (.unresolved settings.endpoint), state)

end Enip
