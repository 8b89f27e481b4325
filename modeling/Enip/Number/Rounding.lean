/-!
# Rounding rational numbers

Two roundings, both to the nearest value and to the even one of two that are equally near:

* `roundEven` to an integer;
* `nearest` to a number with at most 53 significant bits, the precision in which the delays
  between attempts are computed. Numbers are not negative here, and no exponent is too large or
  too small.
-/

namespace Enip.Rounding

/-- The nearest integer; of two that are equally near, the even one. -/
def roundEven (x : Rat) : Int :=
  let below := x.floor
  let part := x - below
  if part < 1 / 2 then below
  else if 1 / 2 < part then below + 1
  else if below % 2 = 0 then below
  else below + 1

/-- A power of two, with any exponent. -/
def twoPow : Int → Rat
  | .ofNat n => ((Nat.pow 2 n : Nat) : Rat)
  | .negSucc n => 1 / ((Nat.pow 2 (n + 1) : Nat) : Rat)

/-- The exponent of the greatest power of two that a positive number is not below. -/
def binade (x : Rat) : Int :=
  let guess := (Nat.log2 x.num.toNat : Int) - (Nat.log2 x.den : Int)
  if twoPow guess ≤ x then guess else guess - 1

/-- The distance between neighbours in 53 bits, at a positive number. -/
def spacing (x : Rat) : Rat := twoPow (binade x - 52)

/-- The nearest number with at most 53 significant bits. -/
def nearest (x : Rat) : Rat :=
  if x = 0 then 0 else roundEven (x / spacing x) * spacing x

end Enip.Rounding
