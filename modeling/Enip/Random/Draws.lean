import Enip.Random.ChaCha

/-!
# Sources of random draws

A source of draws is a sequence of 64-bit words. It may be laid down (`cycle`, `arithmetic`) or
computed from a seed (`seeded`): the seed is stretched to a key by a small generator, and the
draws are the words of the key's stream, two at a time.
-/

namespace Enip

/-- A sequence of 64-bit words, by number from zero. -/
abbrev Draws := Nat → UInt64

namespace Draws

/-- The given words in order, and then again from the first. Without any, only zeros. -/
def cycle (words : List UInt64) : Draws := fun i => words.getD (i % words.length) 0

/-- `start`, `start + step`, and so on, modulo `2^64`. -/
def arithmetic (start step : UInt64) : Draws := fun i => start + step * .ofNat i

/-! ## Seeds -/

/-- One step of the generator that stretches a seed. -/
def stretch (state : UInt64) : UInt64 := state * 6364136223846793005 + 11634580027462260723

/-- The word that the generator shows in a state: bits from the middle, rotated to the right by
the topmost five bits. -/
def shown (state : UInt64) : UInt32 :=
  let mixed := (((state >>> 18) ^^^ state) >>> 27).toUInt32
  let turn := (state >>> 59).toUInt32
  (mixed >>> turn) ||| (mixed <<< (32 - turn))

/-- The state after `steps` steps. -/
def stateAfter (seed : UInt64) : Nat → UInt64
  | 0 => seed
  | steps + 1 => stretch (stateAfter seed steps)

/-- The key of a seed. -/
def key (seed : UInt64) : ChaCha.Key :=
  let word i := shown (stateAfter seed i)
  ⟨⟨word 1, word 2, word 3, word 4⟩, ⟨word 5, word 6, word 7, word 8⟩⟩

/-- The draws of a seed: two words of the stream each, the low one first. -/
def seeded (seed : UInt64) : Draws := fun i =>
  let key := key seed
  (ChaCha.word key (2 * i)).toUInt64 ||| ((ChaCha.word key (2 * i + 1)).toUInt64 <<< 32)

end Draws

end Enip
