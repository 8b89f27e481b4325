/-!
# Hexadecimal text

Upper-case hexadecimal numerals, as the messages and the frame dump write them: `digits` has
no leading zeros, and `padded` fills up with zeros to a least width.
-/

namespace Enip.Hex

/-- The upper-case digit of a number below sixteen. -/
def digit (n : Nat) : Char :=
  if n < 10 then Char.ofNat (48 + n) else Char.ofNat (55 + n)

/-- The digits of a number, most significant first and without leading zeros. Zero is `0`. -/
def digits (n : Nat) : List Char :=
  if n < 16 then [digit n] else digits (n / 16) ++ [digit (n % 16)]

/-- The digits of a number, filled up with zeros to at least `width` of them. -/
def padded (width n : Nat) : List Char :=
  List.replicate (width - (digits n).length) '0' ++ digits n

/-- A number as messages show it: `0x` and at least `width` digits. -/
def shown (width n : Nat) : String :=
  "0x" ++ String.ofList (padded width n)

/-- The two digits of a byte. -/
def byte (b : UInt8) : List Char :=
  [digit (b.toNat / 16), digit (b.toNat % 16)]

end Enip.Hex
