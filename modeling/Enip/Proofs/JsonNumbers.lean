import Mathlib.Tactic.NormNum
import Enip.Json.Number
import Enip.Proofs.JsonTexts
import Enip.Proofs.Rounding

/-!
# Numbers, as JSON writes and reads them

The form of a number is that of RFC 8259: `IsInteger`, `IsFraction` and `IsExponent` are its parts.
A text of this form is taken apart (`readNumeral_append`) if what follows does not go on with the
number, as nothing does that may follow a value (`Ends`). The digits of a natural number below
`2 ^ 64` are read as this number (`readNumber_toDigits`).
-/

namespace Enip.Json

variable {c : Char} {digits rest : List Char}

/-! ## Digits -/

/-- The digits of decimal numbers are the usual ones, with the usual values. -/
theorem isDigit_ten (c : Char) : Enip.Numeral.isDigit 10 c = c.isDigit := by
  have le (a b : Char) : a ≤ b ↔ a.toNat ≤ b.toNat := Iff.rfl
  have usual : c.isDigit = true ↔ '0' ≤ c ∧ c ≤ '9' := by simp [Char.isDigit, Char.le_def]
  rw [Bool.eq_iff_iff, usual, Enip.Numeral.isDigit, decide_eq_true_eq, Enip.Numeral.digitValue]
  simp only [le, Char.reduceToNat]
  split_ifs <;> omega

theorem digitValue_of_isDigit (digit : c.isDigit = true) :
    Enip.Numeral.digitValue c = c.toNat - '0'.toNat := by
  have range : '0' ≤ c ∧ c ≤ '9' := by simpa [Char.isDigit, Char.le_def] using digit
  rw [Enip.Numeral.digitValue, if_pos range]
  rfl

theorem ne_of_isDigit {d : Char} (digit : c.isDigit = true) (other : d.isDigit = false) :
    c ≠ d := by
  rintro rfl
  rw [other] at digit
  cases digit

/-- At least one digit, and nothing else. -/
structure IsDigits (digits : List Char) : Prop where
  some : digits ≠ []
  all : ∀ c ∈ digits, c.isDigit = true

instance (digits : List Char) : Decidable (IsDigits digits) :=
  decidable_of_iff (digits ≠ [] ∧ digits.all Char.isDigit = true)
    ⟨fun ⟨any, all⟩ => ⟨any, List.all_eq_true.1 all⟩,
      fun ⟨any, all⟩ => ⟨any, List.all_eq_true.2 all⟩⟩

theorem isDigits_toDigits (n : Nat) : IsDigits (Nat.toDigits 10 n) where
  some := Nat.toDigits_ne_nil
  all _ member := Nat.isDigit_of_mem_toDigits (by decide) (by decide) member

/-- The value of digits is found by taking in one after the other. -/
theorem value_toDigits (n : Nat) : Enip.Numeral.value 10 (Nat.toDigits 10 n) = n := by
  have same (digits : List Char) (all : ∀ c ∈ digits, c.isDigit = true) (start : Nat) :
      digits.foldl (fun n c => n * 10 + Enip.Numeral.digitValue c) start =
        Nat.ofDigitChars 10 digits start := by
    induction digits generalizing start with
    | nil => rfl
    | cons c digits ih =>
      obtain ⟨digit, all⟩ := List.forall_mem_cons.1 all
      rw [List.foldl_cons, digitValue_of_isDigit digit, Nat.mul_comm, ih all, Nat.ofDigitChars,
        Nat.ofDigitChars, List.foldl_cons]
  rw [Enip.Numeral.value, same _ (isDigits_toDigits n).all,
    Nat.ofDigitChars_toDigits (by decide) (by decide)]

/-- Digits are read to their end. -/
theorem IsDigits.readDigits (isDigits : IsDigits digits)
    (stop : ∀ c ∈ rest.head?, c.isDigit = false) :
    readDigits (digits ++ rest) = .ok (digits, rest) := by
  have all : ∀ c ∈ digits, Enip.Numeral.isDigit 10 c = true := fun c member =>
    (isDigit_ten c).trans (isDigits.all c member)
  have none : rest.takeWhile (Enip.Numeral.isDigit 10) = [] ∧
      rest.dropWhile (Enip.Numeral.isDigit 10) = rest := by
    cases rest with
    | nil => exact ⟨rfl, rfl⟩
    | cons c rest =>
      have other : ¬Enip.Numeral.isDigit 10 c = true := by
        rw [isDigit_ten, stop c rfl]
        decide
      exact ⟨List.takeWhile_cons_of_neg other, List.dropWhile_cons_of_neg other⟩
  simp only [Json.readDigits, List.takeWhile_append_of_pos all, List.dropWhile_append_of_pos all,
    none.1, none.2, List.append_nil]
  exact if_pos isDigits.some

/-! ## Numbers -/

/-- What may follow a value: nothing, a blank, a comma, or a closing bracket. -/
def Ends (rest : List Char) : Prop :=
  ∀ c ∈ rest.head?, isBlank c = true ∨ c = ',' ∨ c = ']' ∨ c = '\x7d'

/-- None of this goes on with a number. -/
theorem Ends.stops (ends : Ends rest) :
    ∀ c ∈ rest.head?, c.isDigit = false ∧ c ≠ '.' ∧ c ≠ 'e' ∧ c ≠ 'E' := by
  intro c first
  rcases ends c first with blank | rfl | rfl | rfl
  · simp only [isBlank, decide_eq_true_eq] at blank
    rcases blank with rfl | rfl | rfl | rfl <;> decide
  all_goals decide

/-- The digits before the point. A zero in front stands alone. -/
structure IsInteger (digits : List Char) : Prop where
  isDigits : IsDigits digits
  zero : digits.head? = some '0' → digits = ['0']

instance (digits : List Char) : Decidable (IsInteger digits) :=
  decidable_of_iff (IsDigits digits ∧ (digits.head? = some '0' → digits = ['0']))
    ⟨fun ⟨isDigits, zero⟩ => ⟨isDigits, zero⟩, fun ⟨isDigits, zero⟩ => ⟨isDigits, zero⟩⟩

/-- A point and the digits after it, or nothing. -/
inductive IsFraction : List Char → Prop
  | none : IsFraction []
  | some {digits : List Char} (isDigits : IsDigits digits) : IsFraction ('.' :: digits)

/-- An exponent with or without a sign, or nothing. -/
inductive IsExponent : List Char → Prop
  | none : IsExponent []
  | some {letter : Char} (marked : letter = 'e' ∨ letter = 'E') {sign digits : List Char}
    (signed : sign = [] ∨ sign = ['-'] ∨ sign = ['+']) (isDigits : IsDigits digits) :
    IsExponent (letter :: (sign ++ digits))

theorem IsInteger.readWhole (isInteger : IsInteger digits)
    (stop : ∀ c ∈ rest.head?, c.isDigit = false) :
    readWhole (digits ++ rest) = .ok (digits, rest) := by
  have alone : ¬(digits.head? = some '0' ∧ digits ≠ ['0']) := fun more =>
    more.2 (isInteger.zero more.1)
  simp only [Json.readWhole, isInteger.isDigits.readDigits stop, bind, Except.bind, if_neg alone]
  rfl

theorem IsExponent.stops {exponent : List Char} (isExponent : IsExponent exponent)
    (ends : Ends rest) : ∀ c ∈ (exponent ++ rest).head?, c.isDigit = false ∧ c ≠ '.' := by
  intro c first
  cases isExponent with
  | none => exact ⟨(ends.stops c first).1, (ends.stops c first).2.1⟩
  | some marked _ _ =>
    cases first
    rcases marked with rfl | rfl <;> decide

theorem IsFraction.stops {fraction exponent : List Char} (isFraction : IsFraction fraction)
    (isExponent : IsExponent exponent) (ends : Ends rest) :
    ∀ c ∈ (fraction ++ (exponent ++ rest)).head?, c.isDigit = false := by
  intro c first
  cases isFraction with
  | none => exact (isExponent.stops ends c first).1
  | some _ =>
    cases first
    decide

theorem readFraction_of_none (stop : ∀ c ∈ rest.head?, c ≠ '.') :
    readFraction rest = .ok (none, rest) := by
  unfold readFraction
  split
  · exact absurd rfl (stop '.' rfl)
  · rfl

theorem IsFraction.readFraction {fraction : List Char} (isFraction : IsFraction fraction)
    (stop : ∀ c ∈ rest.head?, c.isDigit = false ∧ c ≠ '.') :
    ∃ read, readFraction (fraction ++ rest) = .ok (read, rest) := by
  cases isFraction with
  | none => exact ⟨.none, readFraction_of_none fun c first => (stop c first).2⟩
  | @some digits isDigits =>
    refine ⟨.some digits, ?_⟩
    rw [List.cons_append, Json.readFraction, isDigits.readDigits fun c first => (stop c first).1]
    rfl

theorem readExponent_of_none (stop : ∀ c ∈ rest.head?, c ≠ 'e' ∧ c ≠ 'E') :
    readExponent rest = .ok (none, rest) := by
  unfold readExponent
  split
  · rename_i c rest
    obtain ⟨lower, upper⟩ := stop c rfl
    exact if_neg (not_or.2 ⟨lower, upper⟩)
  · rfl

/-- A sign is taken off, and the digits stay. -/
theorem IsDigits.readSign (isDigits : IsDigits digits) {sign : List Char}
    (signed : sign = [] ∨ sign = ['-'] ∨ sign = ['+']) :
    (readSign (sign ++ digits ++ rest)).2 = digits ++ rest := by
  rcases signed with rfl | rfl | rfl
  · obtain ⟨some, all⟩ := isDigits
    obtain ⟨c, digits, rfl⟩ := List.exists_cons_of_ne_nil some
    have digit := all c List.mem_cons_self
    -- No digit is a sign.
    have other (d : Char) : d.isDigit = false → c ≠ d := ne_of_isDigit digit
    simp [Json.readSign, other '-' rfl, other '+' rfl]
  · rfl
  · rfl

theorem IsExponent.readExponent {exponent : List Char} (isExponent : IsExponent exponent)
    (ends : Ends rest) : ∃ read, readExponent (exponent ++ rest) = .ok (read, rest) := by
  cases isExponent with
  | none => exact ⟨.none, readExponent_of_none fun c first => (ends.stops c first).2.2⟩
  | @some letter marked sign digits signed isDigits =>
    have read := isDigits.readDigits fun c first => (ends.stops c first).1
    rw [List.cons_append, Json.readExponent, if_pos marked]
    simp only [isDigits.readSign signed, read, bind, Except.bind]
    exact ⟨_, rfl⟩

/-- **A number is read to its end.** -/
theorem readNumeral_append {integer fraction exponent : List Char} (negative : Bool)
    (isInteger : IsInteger integer) (isFraction : IsFraction fraction)
    (isExponent : IsExponent exponent) (ends : Ends rest) :
    ∃ numeral, readNumeral negative (integer ++ (fraction ++ (exponent ++ rest))) =
      .ok (numeral, rest) := by
  have first := isInteger.readWhole (isFraction.stops isExponent ends)
  obtain ⟨decimals, second⟩ := isFraction.readFraction (isExponent.stops ends)
  obtain ⟨power, third⟩ := isExponent.readExponent ends
  exact ⟨⟨negative, integer, decimals, power⟩, by
    simp only [readNumeral, first, second, third, bind, Except.bind, pure, Except.pure]⟩

/-! ## Natural numbers -/

/-- Only zero is written with a zero in front. -/
theorem isInteger_toDigits (n : Nat) : IsInteger (Nat.toDigits 10 n) where
  isDigits := isDigits_toDigits n
  zero := by
    induction n using Nat.strongRecOn with
    | _ n ih =>
      intro front
      rcases Nat.lt_or_ge n 10 with small | large
      · rw [Nat.toDigits_of_lt_base small] at front ⊢
        simpa using front
      · rw [Nat.toDigits_of_base_le (by decide) large] at front ⊢
        rw [List.head?_append_of_ne_nil _ Nat.toDigits_ne_nil] at front
        have zero := congrArg (Enip.Numeral.value 10) (ih (n / 10) (by omega) front)
        rw [value_toDigits] at zero
        have none : n / 10 = 0 := zero
        omega

theorem readNumeral_toDigits (n : Nat) (ends : Ends rest) :
    readNumeral false (Nat.toDigits 10 n ++ rest) =
      .ok (⟨false, Nat.toDigits 10 n, none, none⟩, rest) := by
  have first := (isInteger_toDigits n).readWhole fun c first => (ends.stops c first).1
  have second := readFraction_of_none fun c first => (ends.stops c first).2.1
  have third := readExponent_of_none fun c first => (ends.stops c first).2.2
  simp only [readNumeral, first, second, third, bind, Except.bind, pure, Except.pure]

/-- Digits are left over only if there are too many for 64 bits. -/
theorem extend_of_lt (digits : List Char) (start : Nat)
    (small : digits.foldl (fun n c => n * 10 + Enip.Numeral.digitValue c) start < 2 ^ 64) :
    extend start digits =
      (digits.foldl (fun n c => n * 10 + Enip.Numeral.digitValue c) start, []) := by
  have grows (digits : List Char) (start : Nat) :
      start ≤ digits.foldl (fun n c => n * 10 + Enip.Numeral.digitValue c) start := by
    induction digits generalizing start with
    | nil => exact Nat.le_refl _
    | cons c digits ih =>
      have step : start ≤ start * 10 + Enip.Numeral.digitValue c := by omega
      exact Nat.le_trans step (ih _)
  induction digits generalizing start with
  | nil => rfl
  | cons c digits ih =>
    rw [List.foldl_cons] at small ⊢
    have longer := Nat.lt_of_le_of_lt (grows digits _) small
    rw [extend]
    exact (if_pos longer).trans (ih _ small)

theorem leading_toDigits {n : Nat} (small : n < 2 ^ 64) :
    Numeral.leading ⟨false, Nat.toDigits 10 n, none, none⟩ = (n, 0) := by
  have value := value_toDigits n
  have taken := extend_of_lt (Nat.toDigits 10 n) 0 (by
    rw [Enip.Numeral.value] at value
    rwa [value])
  rw [Enip.Numeral.value] at value
  rw [value] at taken
  simp [Numeral.leading, taken, extend]

/-- A number of 64 bits is not too large. -/
theorem not_tooLarge {n : Nat} (small : n < 2 ^ 64) : tooLarge n 0 = false := by
  -- No rounding on the way crosses the power of two above, and `2 ^ 1024` is far away.
  have rounded {x : Rat} {e : Int} (nonneg : 0 ≤ x) (lt : x < Rounding.twoPow e) :
      0 ≤ Rounding.nearest x ∧ Rounding.nearest x ≤ Rounding.twoPow e :=
    ⟨Rounding.nearest_nonneg nonneg, Rounding.nearest_le_twoPow nonneg lt⟩
  obtain ⟨number, below⟩ := rounded (x := n) (e := 64) n.cast_nonneg (by
    rw [Rounding.twoPow_eq]
    exact_mod_cast small)
  obtain ⟨one, below'⟩ := rounded (x := 1) (e := 1) one_pos.le (by
    rw [Rounding.twoPow_eq]
    norm_num)
  have product : Rounding.nearest n * Rounding.nearest 1 < Rounding.twoPow 66 :=
    calc Rounding.nearest n * Rounding.nearest 1
      _ ≤ Rounding.twoPow 64 * Rounding.twoPow 1 :=
        mul_le_mul below below' one (Rounding.twoPow_pos 64).le
      _ < Rounding.twoPow 66 := by
        simp only [Rounding.twoPow_eq]
        norm_num
  have bounded : Rounding.nearest (Rounding.nearest n * Rounding.nearest 1) <
      Rounding.twoPow 1024 :=
    calc Rounding.nearest (Rounding.nearest n * Rounding.nearest 1)
      _ ≤ Rounding.twoPow 66 := (rounded (mul_nonneg number one) product).2
      _ < Rounding.twoPow 1024 := by
        rw [Rounding.twoPow_eq, Rounding.twoPow_eq]
        exact zpow_lt_zpow_right₀ one_lt_two (by decide)
  unfold tooLarge
  split_ifs with none huge
  · rfl
  · exact absurd huge (by decide)
  · have unit : ((Nat.pow 10 (0 : Int).toNat : Nat) : Rat) = 1 := by simp
    rw [decide_eq_false_iff_not, unit]
    exact not_le_of_gt bounded

/-- **A natural number of 64 bits is read as it is written.** -/
theorem readNumber_toDigits {n : Nat} (small : n < 2 ^ 64) (ends : Ends rest) :
    readNumber false (Nat.toDigits 10 n ++ rest) = .ok (some n, rest) := by
  have natural : Numeral.natural? ⟨false, Nat.toDigits 10 n, none, none⟩ = some n := by
    rw [Numeral.natural?, value_toDigits]
    exact if_pos small
  simp [readNumber, readNumeral_toDigits n ends, leading_toDigits small, not_tooLarge small,
    natural, bind, Except.bind, pure, Except.pure]

end Enip.Json
