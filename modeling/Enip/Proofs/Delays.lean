import Enip.Backoff
import Enip.Proofs.Rounding

/-!
# Waits grow

The wait after a failed attempt passes through six roundings and two checks of its range. Each of
them keeps the order, so that a greater draw or a later attempt never makes a wait shorter, and a
wait that can be expressed stays so with a lesser draw or an earlier attempt
(`Backoff.delay_grows`). No wait is shorter than half of the base, and without a base there is none.
-/

namespace Enip

namespace Duration

variable {d e sum : Duration} {n : Nat}

theorem ofNanos?_eq_some_iff : ofNanos? n = some d ↔ d.nanos = n := by
  unfold ofNanos?
  constructor
  · intro found
    split at found <;> cases found
    rfl
  · rintro rfl
    rw [dif_pos d.inRange]

theorem add?_eq_some_iff : d.add? e = some sum ↔ sum.nanos = d.nanos + e.nanos :=
  ofNanos?_eq_some_iff

/-- There is a duration of any number of nanoseconds that another is not below. -/
theorem exists_of_le (le : n ≤ d.nanos) : ∃ shorter : Duration, shorter.nanos = n :=
  ⟨⟨n, le.trans_lt d.inRange⟩, rfl⟩

end Duration

namespace Backoff

open Rounding

variable {base part wait : Duration} {attempt attempt' : Nat} {draw draw' : UInt64}

/-! ## The random part in seconds -/

theorem jitter_nonneg (draw : UInt64) : 0 ≤ jitter draw := by
  unfold jitter
  positivity

theorem jitter_mono (draws : draw ≤ draw') : jitter draw ≤ jitter draw' := by
  have parts : draw.toNat / 2048 ≤ draw'.toNat / 2048 := Nat.div_le_div_right draws
  unfold jitter
  gcongr

theorem seconds_nonneg (d : Duration) : 0 ≤ seconds d := by
  unfold seconds
  apply nearest_nonneg
  apply add_nonneg <;> apply nearest_nonneg <;> positivity

theorem jitter_mul_nonneg (draw : UInt64) (attempt : Nat) : 0 ≤ jitter draw * attempt :=
  mul_nonneg (jitter_nonneg draw) (Nat.cast_nonneg attempt)

theorem scaled_mono (base : Duration) (attempts : attempt ≤ attempt') (draws : draw ≤ draw') :
    scaled base attempt draw ≤ scaled base attempt' draw' := by
  have factor : nearest (jitter draw * attempt) ≤ nearest (jitter draw' * attempt') := by
    apply nearest_mono (jitter_mul_nonneg draw attempt)
    exact mul_le_mul (jitter_mono draws) (Nat.cast_le.2 attempts) (Nat.cast_nonneg attempt)
      (jitter_nonneg draw')
  have nonneg : 0 ≤ nearest (jitter draw * attempt) :=
    nearest_nonneg (jitter_mul_nonneg draw attempt)
  apply nearest_mono (mul_nonneg nonneg (seconds_nonneg base))
  exact mul_le_mul_of_nonneg_right factor (seconds_nonneg base)

theorem scaled_zero (attempt : Nat) (draw : UInt64) : scaled .zero attempt draw = 0 := by
  have none : seconds .zero = 0 := by simp [seconds, Duration.secs, Duration.subsecNanos,
    Duration.zero]
  rw [scaled, none, mul_zero, nearest_zero]

/-! ## In whole nanoseconds -/

theorem randomPart_eq_ok_iff : randomPart base attempt draw = .ok part ↔
    scaled base attempt draw < 18446744073709551616 ∧
      part.nanos = (roundEven (scaled base attempt draw * 1000000000)).toNat := by
  rw [← Duration.ofNanos?_eq_some_iff]
  unfold randomPart
  dsimp only
  split_ifs with fits
  · split <;> simp_all
  · simp [fits]

theorem delay_eq_ok_iff : delay base attempt draw = .ok wait ↔
    ∃ part, randomPart base attempt draw = .ok part ∧
      wait.nanos = base.half.nanos + part.nanos := by
  unfold delay
  rcases randomPart base attempt draw with overflow | part
  · simp [bind, Except.bind]
  · simp only [bind, Except.bind, Except.ok.injEq, exists_eq_left', ← Duration.add?_eq_some_iff]
    split <;> simp_all

/-- A random part that can be expressed stays so if it becomes shorter. -/
theorem randomPart_mono (attempts : attempt ≤ attempt') (draws : draw ≤ draw')
    (drawn : randomPart base attempt' draw' = .ok part) :
    ∃ shorter, randomPart base attempt draw = .ok shorter ∧ shorter.nanos ≤ part.nanos := by
  obtain ⟨fits, nanos⟩ := randomPart_eq_ok_iff.1 drawn
  have scaled := scaled_mono base attempts draws
  have rounded : (roundEven (Backoff.scaled base attempt draw * 1000000000)).toNat ≤
      part.nanos := by
    rw [nanos]
    apply Int.toNat_le_toNat
    apply roundEven_mono
    linarith
  obtain ⟨shorter, exact⟩ := Duration.exists_of_le rounded
  exact ⟨shorter, randomPart_eq_ok_iff.2 ⟨scaled.trans_lt fits, exact⟩, exact ▸ rounded⟩

/-- **Waits grow with the draw and with the number of the attempt.** A wait that can be expressed
stays so with a lesser draw and an earlier attempt, does not become longer, and is at least half of
the base. Without a base there is no wait. -/
theorem delay_grows (base : Duration) :
    (∀ (draw draw' : UInt64) (attempt attempt' : UInt32), draw ≤ draw' → attempt ≤ attempt' →
      ∀ wait', delay base attempt'.toNat draw' = .ok wait' →
        ∃ wait, delay base attempt.toNat draw = .ok wait ∧
          base.half.nanos ≤ wait.nanos ∧ wait.nanos ≤ wait'.nanos) ∧
    ∀ (draw : UInt64) (attempt : UInt32), delay .zero attempt.toNat draw = .ok .zero := by
  constructor
  · intro draw draw' attempt attempt' draws attempts wait' waited
    obtain ⟨part', drawn', sum'⟩ := delay_eq_ok_iff.1 waited
    obtain ⟨part, drawn, shorter⟩ := randomPart_mono attempts draws drawn'
    have le : base.half.nanos + part.nanos ≤ wait'.nanos := by omega
    obtain ⟨wait, sum⟩ := Duration.exists_of_le le
    exact ⟨wait, delay_eq_ok_iff.2 ⟨part, drawn, sum⟩, by omega, by omega⟩
  · intro draw attempt
    rw [delay_eq_ok_iff]
    refine ⟨.zero, randomPart_eq_ok_iff.2 ?_, rfl⟩
    rw [scaled_zero, zero_mul]
    exact ⟨by norm_num, (congrArg Int.toNat (roundEven_intCast 0)).symm⟩

/-- Half way through the draws, and a quarter through two attempts earlier. -/
theorem delay_grows_half_second :
    let base : Duration := ⟨500000000, by decide⟩
    (0x4000000000000000 : UInt64) ≤ 0x8000000000000000 ∧ (1 : UInt32) ≤ 3 ∧
    ∃ wait', delay base 3 0x8000000000000000 = .ok wait' ∧
      ∃ wait, delay base 1 0x4000000000000000 = .ok wait ∧
        base.half.nanos ≤ wait.nanos ∧ wait.nanos ≤ wait'.nanos := by
  intro base
  have draws : (0x4000000000000000 : UInt64) ≤ 0x8000000000000000 := by decide
  have attempts : (1 : UInt32) ≤ 3 := by decide
  have waited : delay base 3 0x8000000000000000 = .ok ⟨1000000000, by decide⟩ := by
    decide +kernel
  exact ⟨draws, attempts, _, waited, (delay_grows base).1 _ _ 1 3 draws attempts _ waited⟩

end Backoff

end Enip
