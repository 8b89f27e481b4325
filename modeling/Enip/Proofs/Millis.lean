import Enip.Settings.Basic

/-!
# Durations in whole milliseconds

The settings keep durations as whole milliseconds of at most 64 bits. What comes back is the
duration without what it has beyond a whole millisecond, and at most the longest that fits
(`Settings.nanos_retryDelay`, `Settings.nanos_timeout`).

A timeout of zero milliseconds is replaced by the default, and a timeout below one millisecond is
kept as zero: it comes back as two seconds (`Settings.timeout_far`). Every other duration comes back
with a loss of less than one millisecond (`Settings.durations_kept`).
-/

namespace Enip

namespace Duration

/-- Two durations are less than a millisecond apart. -/
def Near (d e : Duration) : Prop := d.nanos < e.nanos + 1000000 ∧ e.nanos < d.nanos + 1000000

instance (d e : Duration) : Decidable (Near d e) :=
  inferInstanceAs (Decidable (_ ∧ _))

/-- The longest duration that settings can keep: as many milliseconds as 64 bits can count. -/
def longestKept : Duration := .ofMillis 18446744073709551615

@[simp] theorem nanos_ofMillis (millis : UInt64) :
    (ofMillis millis).nanos = millis.toNat * 1000000 := rfl

theorem ext_nanos {d e : Duration} (same : d.nanos = e.nanos) : d = e := by
  cases d; cases e; simp_all

end Duration

namespace Settings

open Duration

variable (settings : Settings) (d : Duration)

theorem toNat_cappedMillis : (cappedMillis d).toNat = min d.millis 18446744073709551615 := by
  unfold cappedMillis
  split
  · rename_i fits
    rw [UInt64.toNat_ofNat', Nat.mod_eq_of_lt fits]
    omega
  · rename_i long
    have : (18446744073709551615 : UInt64).toNat = 18446744073709551615 := rfl
    omega

/-- A delay between attempts comes back in whole milliseconds, as many as fit. -/
theorem nanos_retryDelay : (settings.withRetryDelay d).retryDelay.nanos =
    min d.millis 18446744073709551615 * 1000000 := by
  rw [retryDelay, nanos_ofMillis, withRetryDelay, toNat_cappedMillis]

/-- So does a timeout, if it is a millisecond at least. -/
theorem nanos_timeout (whole : 1000000 ≤ d.nanos) : (settings.withTimeout d).timeout.nanos =
    min d.millis 18446744073709551615 * 1000000 := by
  have some : cappedMillis d ≠ 0 := by
    intro none
    have count := toNat_cappedMillis d
    have : 1 ≤ d.millis := Nat.div_pos whole (by decide)
    rw [none, UInt64.toNat_zero] at count
    omega
  rw [timeout, withTimeout, if_neg some, nanos_ofMillis, toNat_cappedMillis]

/-- A timeout of less than a millisecond is kept as zero, which stands for the default. -/
theorem timeout_of_short (short : d.nanos < 1000000) :
    (settings.withTimeout d).timeout = .ofMillis defaultTimeoutMillis := by
  have none : cappedMillis d = 0 := by
    apply UInt64.toNat_inj.1
    have : d.millis = 0 := Nat.div_eq_of_lt short
    rw [toNat_cappedMillis, this]
    rfl
  rw [timeout, withTimeout, if_pos none]

/-- No timeout is zero. -/
theorem timeout_ne_zero : settings.timeout ≠ .zero := by
  intro none
  have nanos : settings.timeout.nanos = 0 := congrArg Duration.nanos none
  unfold timeout at nanos
  split at nanos
  · cases nanos
  · rename_i some
    apply some
    apply UInt64.toNat_inj.1
    rw [nanos_ofMillis] at nanos
    rw [UInt64.toNat_zero]
    omega

/-- **Durations come back from the settings.** What is lost of a delay between attempts is less than
a millisecond, and so it is for a timeout that is a millisecond at least. What is too long to be
counted comes back as the longest that is not. A timeout of less than a millisecond, as is one of
zero, is the default. No timeout is ever zero. -/
theorem durations_kept (settings : Settings) :
    (∀ d, d.nanos ≤ longestKept.nanos →
      Near (settings.withRetryDelay d).retryDelay d ∧
      (1000000 ≤ d.nanos → Near (settings.withTimeout d).timeout d) ∧
      (d.nanos < 1000000 → (settings.withTimeout d).timeout = .ofMillis 2000)) ∧
    (∀ d, longestKept.nanos < d.nanos →
      (settings.withRetryDelay d).retryDelay = longestKept ∧
      (settings.withTimeout d).timeout = longestKept) ∧
    (settings.withTimeout .zero).timeout = .ofMillis 2000 ∧
    settings.timeout ≠ .zero := by
  have longest : longestKept.nanos = 18446744073709551615 * 1000000 := rfl
  refine ⟨fun d fits => ⟨?_, fun whole => ?_, settings.timeout_of_short d⟩, fun d long => ⟨?_, ?_⟩,
    settings.timeout_of_short .zero (by decide), settings.timeout_ne_zero⟩
  · rw [Near, nanos_retryDelay, millis]
    omega
  · rw [Near, nanos_timeout settings d whole, millis]
    omega
  · apply ext_nanos
    rw [nanos_retryDelay, millis]
    omega
  · apply ext_nanos
    rw [nanos_timeout settings d (by omega), millis]
    omega

/-- A millisecond and a half loses the half, and what is too long is cut to what can be kept. -/
theorem durations_kept_cut :
    let settings := device "plc" 0
    let d : Duration := ⟨1500000, by decide⟩
    let long : Duration := ⟨18446744073709551616 * 1000000, by decide⟩
    (d.nanos ≤ longestKept.nanos ∧ 1000000 ≤ d.nanos ∧ longestKept.nanos < long.nanos) ∧
      Near (settings.withRetryDelay d).retryDelay d ∧ Near (settings.withTimeout d).timeout d ∧
      (settings.withTimeout long).timeout = longestKept := by
  intro settings d long
  obtain ⟨kept, cut, -⟩ := durations_kept settings
  have fits : d.nanos ≤ longestKept.nanos := by decide
  have whole : 1000000 ≤ d.nanos := by decide
  have exceeds : longestKept.nanos < long.nanos := by decide
  exact ⟨⟨fits, whole, exceeds⟩, (kept d fits).1, (kept d fits).2.1 whole, (cut long exceeds).2⟩

/-- Half a millisecond comes back as two seconds. -/
theorem timeout_far :
    let d : Duration := ⟨500000, by decide⟩
    d ≠ .zero ∧ d.nanos ≤ longestKept.nanos ∧
      ((device "plc" 0).withTimeout d).timeout = .ofMillis 2000 ∧
      ¬Near ((device "plc" 0).withTimeout d).timeout d := by
  decide

end Settings

end Enip
