import Enip.Duration
import Enip.Number.Rounding
import Enip.Random.Draws

/-!
# Waiting between attempts

After attempt number `n` has failed a client waits for half of a base duration and, on top of
it, a random part of `n` times the base. Waits grow with the number of failed attempts, and
clients that lost the same device do not all come back at once.

The random part is computed in numbers of 53 significant bits, each operation rounded to the
nearest (`Backoff.scaled`); the half is exact.
-/

namespace Enip

/-- How long to wait between attempts. -/
structure Backoff where
  base : Duration
  /-- The random draws, one for each wait. -/
  draws : Draws

/-- Why a wait cannot be expressed as a duration. -/
inductive DelayOverflow where
  | randomPart
  | sum
deriving DecidableEq

/-- The overflow in words. -/
def DelayOverflow.message : DelayOverflow → String
  | randomPart => "cannot convert float seconds to Duration: value is either too big or NaN"
  | sum => "overflow when adding durations"

namespace Backoff

open Rounding

/-- The part of one that a draw stands for: its 53 high bits after the point. -/
def jitter (draw : UInt64) : Rat := ((draw.toNat / 2048 : Nat) : Rat) / 9007199254740992

/-- A duration in seconds, rounded. -/
def seconds (d : Duration) : Rat :=
  nearest (nearest d.secs + nearest (d.subsecNanos / 1000000000))

/-- The random part of a wait in seconds, rounded. -/
def scaled (base : Duration) (attempt : Nat) (draw : UInt64) : Rat :=
  nearest (nearest (jitter draw * attempt) * seconds base)

/-- The random part of a wait, to the nearest nanosecond. -/
def randomPart (base : Duration) (attempt : Nat) (draw : UInt64) : Except DelayOverflow Duration :=
  let wait := scaled base attempt draw
  if wait < 18446744073709551616 then
    match Duration.ofNanos? (roundEven (wait * 1000000000)).toNat with
    | some part => .ok part
    | none => .error .randomPart
  else .error .randomPart

/-- The wait after attempt number `attempt` has failed, with a given draw. -/
def delay (base : Duration) (attempt : Nat) (draw : UInt64) : Except DelayOverflow Duration := do
  let part ← randomPart base attempt draw
  match base.half.add? part with
  | some wait => .ok wait
  | none => .error .sum

/-- The wait after attempt number `attempt` has failed, with the draw of a given number. -/
def wait (backoff : Backoff) (attempt drawn : Nat) : Except DelayOverflow Duration :=
  delay backoff.base attempt (backoff.draws drawn)

/-- The backoff as diagnostics show it. The draws are not shown. -/
def text (backoff : Backoff) : String := "Backoff \x7b base: " ++ backoff.base.text ++ ", .. \x7d"

end Backoff

end Enip
