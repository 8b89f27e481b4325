import Enip.Number.Rounding
import Mathlib.Algebra.Order.Field.Power
import Mathlib.Data.Rat.Floor
import Mathlib.Tactic.Linarith

/-!
# Rounding keeps the order

The exponent of a number is found from its numerator and denominator, and is the right one
(`binade_spec`). Between two powers of two that follow one another, rounding is rounding to whole
steps, and does not leave these bounds (`nearest_mem_binade`). So a greater number is never rounded
to a lesser one, whether the two lie between the same powers or not (`nearest_mono`).
-/

namespace Enip.Rounding

/-! ## Rounding to integers -/

section Integers

variable {x y : Rat}

theorem floor_le_roundEven (x : Rat) : ⌊x⌋ ≤ roundEven x := by
  change x.floor ≤ roundEven x
  unfold roundEven
  dsimp only
  split_ifs <;> omega

theorem roundEven_le_floor_add_one (x : Rat) : roundEven x ≤ ⌊x⌋ + 1 := by
  change roundEven x ≤ x.floor + 1
  unfold roundEven
  dsimp only
  split_ifs <;> omega

/-- Rounding to integers keeps the order. -/
theorem roundEven_mono (le : x ≤ y) : roundEven x ≤ roundEven y := by
  rcases (Int.floor_le_floor le).lt_or_eq with apart | together
  · calc roundEven x
      _ ≤ ⌊x⌋ + 1 := roundEven_le_floor_add_one x
      _ ≤ ⌊y⌋ := apart
      _ ≤ roundEven y := floor_le_roundEven y
  · -- The integers below are the same, so that the greater number has the greater part above.
    change x.floor = y.floor at together
    unfold roundEven
    rw [together]
    dsimp only
    split_ifs <;> first | omega | linarith

@[simp] theorem roundEven_intCast (n : Int) : roundEven n = n := by
  have below : (n : Rat).floor = n := Rat.floor_intCast n
  simp [roundEven, below]

end Integers

/-! ## Powers of two -/

theorem twoPow_eq (e : Int) : twoPow e = 2 ^ e := by
  cases e with
  | ofNat n => simp [twoPow]
  | negSucc n => simp [twoPow, zpow_negSucc]

theorem twoPow_pos (e : Int) : 0 < twoPow e := by
  rw [twoPow_eq]
  positivity

theorem twoPow_le {e f : Int} (le : e ≤ f) : twoPow e ≤ twoPow f := by
  rw [twoPow_eq, twoPow_eq]
  exact zpow_le_zpow_right₀ one_le_two le

theorem lt_of_twoPow_lt {e f : Int} (lt : twoPow e < twoPow f) : e < f := by
  rw [twoPow_eq, twoPow_eq] at lt
  exact (zpow_lt_zpow_iff_right₀ one_lt_two).1 lt

theorem twoPow_add (e f : Int) : twoPow (e + f) = twoPow e * twoPow f := by
  simp only [twoPow_eq, zpow_add₀ (two_ne_zero' Rat)]

/-! ## Binades -/

section Binades

variable {x y : Rat}

/-- A positive number is a quotient of two that lie between neighbouring powers of two. -/
theorem between_twoPow (pos : 0 < x) :
    twoPow (x.num.toNat.log2 - x.den.log2 - 1 : Int) ≤ x ∧
      x < twoPow (x.num.toNat.log2 - x.den.log2 + 1 : Int) := by
  have num : (x.num.toNat : Rat) = x * x.den := by
    have cast : ((x.num.toNat : Int) : Rat) = x.num := by
      rw [Int.toNat_of_nonneg (Rat.num_pos.2 pos).le]
    rw [← Int.cast_natCast, cast, Rat.mul_den_eq_num]
  have some : x.num.toNat ≠ 0 := by have := Rat.num_pos.2 pos; omega
  have den : (0 : Rat) < x.den := by exact_mod_cast x.den_pos
  have cast (n : Nat) : twoPow n = ((2 ^ n : Nat) : Rat) := by simp [twoPow_eq]
  have numLow : twoPow x.num.toNat.log2 ≤ x * x.den := by
    rw [← num, cast]
    exact_mod_cast Nat.log2_self_le some
  have numHigh : x * x.den < twoPow (x.num.toNat.log2 + 1 : Nat) := by
    rw [← num, cast]
    exact_mod_cast Nat.lt_log2_self
  have denLow : twoPow x.den.log2 ≤ x.den := by
    rw [cast]
    exact_mod_cast Nat.log2_self_le x.den_nz
  have denHigh : (x.den : Rat) < twoPow (x.den.log2 + 1 : Nat) := by
    rw [cast]
    exact_mod_cast Nat.lt_log2_self
  constructor
  · refine le_of_mul_le_mul_right ?_ den
    calc twoPow (x.num.toNat.log2 - x.den.log2 - 1 : Int) * x.den
      _ ≤ twoPow (x.num.toNat.log2 - x.den.log2 - 1 : Int) * twoPow (x.den.log2 + 1 : Nat) :=
        mul_le_mul_of_nonneg_left denHigh.le (twoPow_pos _).le
      _ = twoPow x.num.toNat.log2 := by
        rw [← twoPow_add]
        congr 1
        omega
      _ ≤ x * x.den := numLow
  · refine lt_of_mul_lt_mul_right ?_ den.le
    calc x * x.den
      _ < twoPow (x.num.toNat.log2 + 1 : Nat) := numHigh
      _ = twoPow (x.num.toNat.log2 - x.den.log2 + 1 : Int) * twoPow x.den.log2 := by
        rw [← twoPow_add]
        congr 1
        omega
      _ ≤ twoPow (x.num.toNat.log2 - x.den.log2 + 1 : Int) * x.den :=
        mul_le_mul_of_nonneg_left denLow (twoPow_pos _).le

/-- The greatest power of two that a positive number is not below. -/
theorem binade_spec (pos : 0 < x) : twoPow (binade x) ≤ x ∧ x < twoPow (binade x + 1) := by
  obtain ⟨low, high⟩ := between_twoPow pos
  unfold binade
  dsimp only
  split_ifs with above
  · exact ⟨above, high⟩
  · rw [sub_add_cancel]
    exact ⟨low, not_le.1 above⟩

theorem binade_mono (pos : 0 < x) (le : x ≤ y) : binade x ≤ binade y := by
  have apart : twoPow (binade x) < twoPow (binade y + 1) :=
    calc twoPow (binade x)
      _ ≤ x := (binade_spec pos).1
      _ ≤ y := le
      _ < twoPow (binade y + 1) := (binade_spec (pos.trans_le le)).2
  exact Int.lt_add_one_iff.1 (lt_of_twoPow_lt apart)

end Binades

/-! ## Rounding to 53 bits -/

section Nearest

variable {x y : Rat}

@[simp] theorem nearest_zero : nearest 0 = 0 := if_pos rfl

theorem nearest_of_pos (pos : 0 < x) :
    nearest x = roundEven (x / spacing x) * spacing x := if_neg pos.ne'

theorem spacing_pos (x : Rat) : 0 < spacing x := twoPow_pos _

/-- A power of two at the edge of a binade is a whole number of steps. -/
theorem twoPow_eq_steps (x : Rat) (n : Nat) :
    twoPow (binade x - 52 + n) = ((2 ^ n : Nat) : Int) * spacing x := by
  rw [twoPow_add, mul_comm, spacing, twoPow_eq n]
  simp

/-- Rounding does not leave the binade, but for its upper end. -/
theorem nearest_mem_binade (pos : 0 < x) :
    twoPow (binade x) ≤ nearest x ∧ nearest x ≤ twoPow (binade x + 1) := by
  obtain ⟨low, high⟩ := binade_spec pos
  have first : twoPow (binade x) = ((2 ^ 52 : Nat) : Int) * spacing x := by
    rw [← twoPow_eq_steps]
    congr 1
    omega
  have last : twoPow (binade x + 1) = ((2 ^ 53 : Nat) : Int) * spacing x := by
    rw [← twoPow_eq_steps]
    congr 1
    omega
  rw [nearest_of_pos pos, first, last]
  rw [first] at low
  rw [last] at high
  constructor
  · refine mul_le_mul_of_nonneg_right ?_ (spacing_pos x).le
    have : ((2 ^ 52 : Nat) : Int) ≤ roundEven (x / spacing x) := by
      rw [← roundEven_intCast ((2 ^ 52 : Nat) : Int)]
      exact roundEven_mono ((le_div_iff₀ (spacing_pos x)).2 low)
    exact_mod_cast this
  · refine mul_le_mul_of_nonneg_right ?_ (spacing_pos x).le
    have : roundEven (x / spacing x) ≤ ((2 ^ 53 : Nat) : Int) := by
      rw [← roundEven_intCast ((2 ^ 53 : Nat) : Int)]
      exact roundEven_mono ((div_le_iff₀ (spacing_pos x)).2 high.le)
    exact_mod_cast this

theorem nearest_nonneg (nonneg : 0 ≤ x) : 0 ≤ nearest x := by
  rcases nonneg.eq_or_lt with rfl | pos
  · rw [nearest_zero]
  · exact (twoPow_pos _).le.trans (nearest_mem_binade pos).1

/-- **Rounding keeps the order.** -/
theorem nearest_mono (nonneg : 0 ≤ x) (le : x ≤ y) : nearest x ≤ nearest y := by
  rcases nonneg.eq_or_lt with rfl | pos
  · rw [nearest_zero]
    exact nearest_nonneg le
  have pos' : 0 < y := pos.trans_le le
  rcases (binade_mono pos le).lt_or_eq with apart | together
  · -- An end of a binade lies between the two.
    calc nearest x
      _ ≤ twoPow (binade x + 1) := (nearest_mem_binade pos).2
      _ ≤ twoPow (binade y) := twoPow_le apart
      _ ≤ nearest y := (nearest_mem_binade pos').1
  · have same : spacing x = spacing y := by rw [spacing, together, spacing]
    rw [nearest_of_pos pos, nearest_of_pos pos', same]
    refine mul_le_mul_of_nonneg_right ?_ (spacing_pos y).le
    exact_mod_cast roundEven_mono (div_le_div_of_nonneg_right le (spacing_pos y).le)

/-- Rounding does not cross a power of two. -/
theorem nearest_le_twoPow {e : Int} (nonneg : 0 ≤ x) (lt : x < twoPow e) :
    nearest x ≤ twoPow e := by
  rcases nonneg.eq_or_lt with rfl | pos
  · rw [nearest_zero]
    exact (twoPow_pos e).le
  · have below : binade x < e := lt_of_twoPow_lt ((binade_spec pos).1.trans_lt lt)
    exact (nearest_mem_binade pos).2.trans (twoPow_le below)

end Nearest

end Enip.Rounding
