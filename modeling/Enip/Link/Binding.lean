import Enip.Frame.Buffer
import Enip.Error.Link
import Enip.Settings.Basic

/-!
# Bindings

A binding says how links to devices are opened and how bytes move over them. It knows nothing of
frames. What is at the other end of the links, and everything between, is a state of type `δ`
that each operation may change; a link is known by a handle of type `ℓ`.
-/

namespace Enip

/-- How links to a device are opened and used. -/
structure Binding (ℓ δ : Type) where
  /-- Whether a session is registered on a new link and ended before the link is given up. -/
  handshake : Bool
  dial : Settings → δ → Except LinkError ℓ × δ
  send : ℓ → Bytes → δ → Except LinkError Unit × δ
  /-- Receives bytes into the space it is shown. A claim of no bytes says that the device has
  closed the link. -/
  receive : ℓ → Bytes → δ → Except LinkError Delivery × δ
  shutdown : ℓ → δ → Except LinkError Unit × δ

/-- A receive on a link as the frame buffer lets it happen. What a receive that fails has written is
of no account there. -/
def Binding.receiver {ℓ δ : Type} (binding : Binding ℓ δ) (handle : ℓ) :
    FrameBuffer.Receiver LinkError δ := fun space device =>
  match binding.receive handle space device with
  | (.ok delivery, device) => ((delivery.written, .ok delivery.claimed), device)
  | (.error fault, device) => (([], .error fault), device)

end Enip
