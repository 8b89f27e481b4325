import Enip.Address.Reader

/-!
# Addresses of version four

Four bytes, written in decimal with points between them: `192.168.1.10`. No byte has more than
three digits or a zero in front.
-/

namespace Enip.Address

/-- An address of version four. -/
structure V4 where
  a : UInt8
  b : UInt8
  c : UInt8
  d : UInt8
deriving DecidableEq

namespace V4

/-- Reads one byte. -/
def readByte (text : List Char) : Option (UInt8 × List Char) := do
  let (digits, rest) ← readDigits 10 3 text
  let value := Numeral.value 10 digits
  if value < 256 ∧ (digits.head? ≠ some '0' ∨ digits.length = 1) then
    pure (.ofNat value, rest)
  else none

/-- Reads an address from the front of a text. -/
def read (text : List Char) : Option (V4 × List Char) := do
  let (a, text) ← readByte text
  let (b, text) ← readByte (← readChar '.' text)
  let (c, text) ← readByte (← readChar '.' text)
  let (d, text) ← readByte (← readChar '.' text)
  pure (⟨a, b, c, d⟩, text)

/-- An address as it is written. -/
def text (address : V4) : String :=
  toString address.a.toNat ++ "." ++ toString address.b.toNat ++ "." ++
    toString address.c.toNat ++ "." ++ toString address.d.toNat

end V4

end Enip.Address
