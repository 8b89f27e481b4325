import Enip.Text.Numeral

/-!
# Reading the parts of an address

Numbers in the text of an address are short: the reader bounds the digits and not only the value.
-/

namespace Enip.Address

/-- Reads all the digits at the front of a text, and fails if there are none or too many. -/
def readDigits (base most : Nat) (text : List Char) : Option (List Char × List Char) :=
  let digits := text.takeWhile (Numeral.isDigit base)
  if digits = [] ∨ most < digits.length then none
  else some (digits, text.dropWhile (Numeral.isDigit base))

/-- Reads a character that has to be there. -/
def readChar (c : Char) : List Char → Option (List Char)
  | [] => none
  | d :: rest => if d = c then some rest else none

end Enip.Address
