/-!
# Lengths of time

A `Duration` is a whole number of nanoseconds below `2^64` seconds. `ofMillis` and `millis`
convert from and to milliseconds, dropping what is less than one; `add?` fails where the sum
leaves the range. `text` writes a duration in the largest unit of s, ms, µs and ns of which
it holds at least one, with as many decimals as it needs.
-/

namespace Enip

/-- A length of time of a whole number of nanoseconds, below `2^64` seconds. -/
structure Duration where
  nanos : Nat
  /-- The seconds fit in 64 bits. -/
  inRange : nanos < 18446744073709551616 * 1000000000
deriving DecidableEq

namespace Duration

/-- No time at all. -/
def zero : Duration := ⟨0, by decide⟩

/-- The duration of that many nanoseconds, if it is in range. -/
def ofNanos? (nanos : Nat) : Option Duration :=
  if inRange : nanos < 18446744073709551616 * 1000000000 then some ⟨nanos, inRange⟩ else none

/-- The duration of that many milliseconds. -/
def ofMillis (millis : UInt64) : Duration :=
  ⟨millis.toNat * 1000000, by have := millis.toNat_lt; omega⟩

/-- Whole seconds. -/
def secs (d : Duration) : Nat := d.nanos / 1000000000

/-- Nanoseconds beyond the whole seconds. -/
def subsecNanos (d : Duration) : Nat := d.nanos % 1000000000

/-- Whole milliseconds. -/
def millis (d : Duration) : Nat := d.nanos / 1000000

/-- Half the duration, to the whole nanosecond below. -/
def half (d : Duration) : Duration := ⟨d.nanos / 2, by have := d.inRange; omega⟩

/-- The sum of two durations, if it is in range. -/
def add? (d e : Duration) : Option Duration := ofNanos? (d.nanos + e.nanos)

/-! ## Text -/

/-- The decimals of `rest` parts of `unit`, for a unit of `places` decimal places, without
zeros at their end: nothing for a whole number, else a point and digits. -/
def decimals (places rest : Nat) : List Char :=
  let all := List.replicate (places - (Nat.toDigits 10 rest).length) '0' ++ Nat.toDigits 10 rest
  let kept := (all.reverse.dropWhile (· = '0')).reverse
  if kept = [] then [] else '.' :: kept

/-- `nanos` written in a unit of `unit` nanoseconds, which is ten to the power `places`. -/
def inUnit (nanos unit places : Nat) (name : String) : String :=
  toString (nanos / unit) ++ String.ofList (decimals places (nanos % unit)) ++ name

/-- The duration in the largest unit of which it holds at least one. -/
def text (d : Duration) : String :=
  if 1000000000 ≤ d.nanos then inUnit d.nanos 1000000000 9 "s"
  else if 1000000 ≤ d.nanos then inUnit d.nanos 1000000 6 "ms"
  else if 1000 ≤ d.nanos then inUnit d.nanos 1000 3 "µs"
  else toString d.nanos ++ "ns"

end Duration

end Enip
