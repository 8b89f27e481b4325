/-!
# Reading numerals

The value of digits in any base up to sixteen. A letter counts in either case.
-/

namespace Enip.Numeral

/-- The value of a digit. It is sixteen for what is no digit in any base. -/
def digitValue (c : Char) : Nat :=
  if '0' ≤ c ∧ c ≤ '9' then c.toNat - 48
  else if 'a' ≤ c ∧ c ≤ 'f' then c.toNat - 87
  else if 'A' ≤ c ∧ c ≤ 'F' then c.toNat - 55
  else 16

/-- Whether a character is a digit in a base. -/
def isDigit (base : Nat) (c : Char) : Bool := digitValue c < base

/-- The number with the given digits, most significant first. -/
def value (base : Nat) (digits : List Char) : Nat :=
  digits.foldl (fun n c => n * base + digitValue c) 0

end Enip.Numeral
