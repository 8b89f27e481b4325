import Enip.Json.Text
import Enip.Number.Rounding

/-!
# Numbers in JSON text

A `Numeral` is a number as it stands in a text: a sign, digits, digits after a point, and an
exponent. `readNumeral` takes one apart. `readNumber` gives its value if it is a natural number of
at most 64 bits written with digits alone. Any other number does not fit where a natural number is
asked for, but one too large for a number of 53 bits with an exponent below 1024 counts as no
JSON.

Whether a number is too large is decided from its first digits, as many as 64 bits hold, and its
exponent.
-/

namespace Enip.Json

/-- A number as it stands in a text. -/
structure Numeral where
  negative : Bool
  whole : List Char
  fraction : Option (List Char)
  exponent : Option Int

/-! ## Taking a number apart -/

/-- Reads the digits at the front of a text, of which there has to be one. -/
def readDigits (text : List Char) : Except Fault (List Char × List Char) :=
  let digits := text.takeWhile (Enip.Numeral.isDigit 10)
  let rest := text.dropWhile (Enip.Numeral.isDigit 10)
  if digits ≠ [] then .ok (digits, rest)
  else if rest = [] then .error .early
  else .error .malformed

/-- Reads the digits before the point. A zero in front stands alone. -/
def readWhole (text : List Char) : Except Fault (List Char × List Char) := do
  let (digits, rest) ← readDigits text
  if digits.head? = some '0' ∧ digits ≠ ['0'] then throw .malformed
  pure (digits, rest)

/-- Reads a point and the digits after it, if there is a point. -/
def readFraction : List Char → Except Fault (Option (List Char) × List Char)
  | '.' :: rest => (readDigits rest).map fun (digits, rest) => (some digits, rest)
  | rest => .ok (none, rest)

/-- The text after a sign, and whether it is a minus. -/
def readSign : List Char → Bool × List Char
  | '-' :: rest => (true, rest)
  | '+' :: rest => (false, rest)
  | rest => (false, rest)

/-- Reads an exponent, if there is one. -/
def readExponent : List Char → Except Fault (Option Int × List Char)
  | c :: rest =>
    if c = 'e' ∨ c = 'E' then do
      let (negative, rest) := readSign rest
      let (digits, rest) ← readDigits rest
      let value : Int := Enip.Numeral.value 10 digits
      pure (some (if negative then -value else value), rest)
    else .ok (none, c :: rest)
  | [] => .ok (none, [])

/-- Reads a number after its minus sign, if it has one. -/
def readNumeral (negative : Bool) (text : List Char) : Except Fault (Numeral × List Char) := do
  let (whole, rest) ← readWhole text
  let (fraction, rest) ← readFraction rest
  let (exponent, rest) ← readExponent rest
  pure ({ negative, whole, fraction, exponent }, rest)

/-! ## What is left of the text -/

theorem length_lt_of_readDigits {text digits rest : List Char}
    (h : readDigits text = .ok (digits, rest)) : rest.length < text.length := by
  have whole := congrArg List.length
    (List.takeWhile_append_dropWhile (p := Enip.Numeral.isDigit 10) (l := text))
  simp only [readDigits] at h
  split at h
  · next some =>
    simp only [Except.ok.injEq, Prod.mk.injEq] at h
    have : (text.takeWhile (Enip.Numeral.isDigit 10)).length ≠ 0 := by simpa using some
    rw [List.length_append, h.2] at whole
    omega
  · split at h <;> simp at h

theorem length_lt_of_readWhole {text digits rest : List Char}
    (h : readWhole text = .ok (digits, rest)) : rest.length < text.length := by
  unfold readWhole at h
  cases read : readDigits text with
  | error fault => simp [read, bind, Except.bind] at h
  | ok found =>
    have := length_lt_of_readDigits read
    simp only [read, bind, Except.bind] at h
    split at h
    · simp [throw, throwThe, MonadExceptOf.throw] at h
    · simp only [pure, Except.pure, Except.ok.injEq, Prod.mk.injEq] at h
      rwa [← h.2]

theorem length_le_of_readFraction {text rest : List Char} {fraction : Option (List Char)}
    (h : readFraction text = .ok (fraction, rest)) : rest.length ≤ text.length := by
  unfold readFraction at h
  split at h
  · next text =>
    cases read : readDigits text with
    | error fault => simp [read, Except.map] at h
    | ok found =>
      have := length_lt_of_readDigits read
      simp only [read, Except.map, Except.ok.injEq, Prod.mk.injEq] at h
      simp only [← h.2, List.length_cons]
      omega
  · simp only [Except.ok.injEq, Prod.mk.injEq] at h
    simp [h.2]

theorem length_readSign_le (text : List Char) : (readSign text).2.length ≤ text.length := by
  unfold readSign
  split <;> simp

theorem length_le_of_readExponent {text rest : List Char} {exponent : Option Int}
    (h : readExponent text = .ok (exponent, rest)) : rest.length ≤ text.length := by
  unfold readExponent at h
  split at h
  · next c text =>
    split at h
    · have signed := length_readSign_le text
      cases read : readDigits (readSign text).2 with
      | error fault => simp [read, bind, Except.bind] at h
      | ok found =>
        have := length_lt_of_readDigits read
        simp only [read, bind, Except.bind, pure, Except.pure, Except.ok.injEq, Prod.mk.injEq] at h
        simp only [← h.2, List.length_cons]
        omega
    · simp only [Except.ok.injEq, Prod.mk.injEq] at h
      simp [← h.2]
  · simp only [Except.ok.injEq, Prod.mk.injEq] at h
    simp [← h.2]

theorem length_lt_of_readNumeral {negative : Bool} {text rest : List Char} {numeral : Numeral}
    (h : readNumeral negative text = .ok (numeral, rest)) : rest.length < text.length := by
  unfold readNumeral at h
  cases first : readWhole text with
  | error fault => simp [first, bind, Except.bind] at h
  | ok whole =>
    have := length_lt_of_readWhole first
    simp only [first, bind, Except.bind] at h
    cases second : readFraction whole.2 with
    | error fault => simp [second] at h
    | ok fraction =>
      have := length_le_of_readFraction second
      simp only [second] at h
      cases third : readExponent fraction.2 with
      | error fault => simp [third] at h
      | ok exponent =>
        have := length_le_of_readExponent third
        simp only [third, pure, Except.pure, Except.ok.injEq, Prod.mk.injEq] at h
        rw [← h.2]
        omega

/-! ## The size of a number -/

/-- Goes on from a number with more digits as long as it stays within 64 bits. Gives the number and
the digits that were left over. -/
def extend (number : Nat) : List Char → Nat × List Char
  | [] => (number, [])
  | c :: digits =>
    let longer := number * 10 + Enip.Numeral.digitValue c
    if longer < 18446744073709551616 then extend longer digits else (number, c :: digits)

/-- A number as a natural number of at most 64 bits times a power of ten, of which the number has
the first digits. -/
def Numeral.leading (numeral : Numeral) : Nat × Int :=
  let fraction := numeral.fraction.getD []
  let (number, dropped) := extend 0 numeral.whole
  let (number, ignored) := extend number fraction
  (number, numeral.exponent.getD 0 + dropped.length - (fraction.length - ignored.length : Nat))

/-- Whether a number times a power of ten has no place among the numbers of 53 bits with an
exponent below 1024. The power is rounded, as is the product. -/
def tooLarge (number : Nat) (exponent : Int) : Bool :=
  if number = 0 ∨ exponent < 0 then false
  else if 308 < exponent then true
  else
    let power := Rounding.nearest ((Nat.pow 10 exponent.toNat : Nat) : Rat)
    Rounding.twoPow 1024 ≤ Rounding.nearest (Rounding.nearest (number : Rat) * power)

/-- The value of a number, if it is a natural number of at most 64 bits, has no minus sign, and is
written with digits alone. -/
def Numeral.natural? (numeral : Numeral) : Option Nat :=
  let value := Enip.Numeral.value 10 numeral.whole
  if numeral.negative ∨ numeral.fraction.isSome ∨ numeral.exponent.isSome then none
  else if value < 18446744073709551616 then some value
  else none

/-- Reads a number after its minus sign, if it has one. -/
def readNumber (negative : Bool) (text : List Char) : Except Fault (Option Nat × List Char) := do
  let (numeral, rest) ← readNumeral negative text
  let (number, exponent) := numeral.leading
  if tooLarge number exponent then throw .malformed
  pure (numeral.natural?, rest)

theorem length_lt_of_readNumber {negative : Bool} {text rest : List Char} {value : Option Nat}
    (h : readNumber negative text = .ok (value, rest)) : rest.length < text.length := by
  unfold readNumber at h
  cases read : readNumeral negative text with
  | error fault => simp [read, bind, Except.bind] at h
  | ok found =>
    have := length_lt_of_readNumeral read
    simp only [read, bind, Except.bind] at h
    split at h
    · simp [throw, throwThe, MonadExceptOf.throw] at h
    · simp only [pure, Except.pure, Except.ok.injEq, Prod.mk.injEq] at h
      rwa [← h.2]

end Enip.Json
