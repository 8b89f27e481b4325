/-!
# The ChaCha stream

A stream of 32-bit words from a key of eight words, computed in blocks of sixteen words. A
block is a square of four rows, filled with four constants, the key, and the number of the block.
It is mixed in rounds and added to what it was. The rounds come in pairs: one mixes along the
columns, the other along the diagonals, which become columns when the rows are turned against
each other.
-/

namespace Enip.ChaCha

/-- Four words side by side. -/
structure Row where
  a : UInt32
  b : UInt32
  c : UInt32
  d : UInt32

namespace Row

/-- Combines two rows word by word. -/
def zip (f : UInt32 → UInt32 → UInt32) (r s : Row) : Row :=
  ⟨f r.a s.a, f r.b s.b, f r.c s.c, f r.d s.d⟩

/-- The word-by-word sum. -/
def add : Row → Row → Row := zip (· + ·)

/-- The word-by-word difference of bits, each word then rotated to the left by `bits`. -/
def mix (bits : UInt32) : Row → Row → Row :=
  zip fun x y => ((x ^^^ y) <<< bits) ||| ((x ^^^ y) >>> (32 - bits))

/-- The row turned by one place to the left. -/
def turn (r : Row) : Row := ⟨r.b, r.c, r.d, r.a⟩

/-- The words in order. -/
def words (r : Row) : List UInt32 := [r.a, r.b, r.c, r.d]

end Row

/-- Sixteen words in four rows. -/
structure Square where
  first : Row
  second : Row
  third : Row
  fourth : Row

namespace Square

/-- Adds, mixes and rotates along the four columns at once. -/
def columnRound (m : Square) : Square :=
  let a := m.first.add m.second
  let d := m.fourth.mix 16 a
  let c := m.third.add d
  let b := m.second.mix 12 c
  let a := a.add b
  let d := d.mix 8 a
  let c := c.add d
  let b := b.mix 7 c
  ⟨a, b, c, d⟩

/-- One round along the columns and one along the diagonals. -/
def doubleRound (m : Square) : Square :=
  let m := m.columnRound
  let m := columnRound ⟨m.first, m.second.turn, m.third.turn.turn, m.fourth.turn.turn.turn⟩
  ⟨m.first, m.second.turn.turn.turn, m.third.turn.turn, m.fourth.turn⟩

/-- So many pairs of rounds. -/
def rounds : Nat → Square → Square
  | 0, m => m
  | pairs + 1, m => rounds pairs m.doubleRound

/-- The word-by-word sum. -/
def add (m n : Square) : Square :=
  ⟨m.first.add n.first, m.second.add n.second, m.third.add n.third, m.fourth.add n.fourth⟩

/-- The words in order, row by row. -/
def words (m : Square) : List UInt32 :=
  m.first.words ++ m.second.words ++ m.third.words ++ m.fourth.words

end Square

/-- A key of eight words. -/
structure Key where
  low : Row
  high : Row

/-- The square from which a block is computed. The number of the block takes two words, the low
one first. -/
def start (key : Key) (block : UInt64) : Square :=
  ⟨⟨0x61707865, 0x3320646E, 0x79622D32, 0x6B206574⟩, key.low, key.high,
    ⟨block.toUInt32, (block >>> 32).toUInt32, 0, 0⟩⟩

/-- A block of the stream, with twelve rounds. -/
def block (key : Key) (number : UInt64) : List UInt32 :=
  let square := start key number
  ((square.rounds 6).add square).words

/-- The word at a position of the stream. -/
def word (key : Key) (position : Nat) : UInt32 :=
  (block key (.ofNat (position / 16))).getD (position % 16) 0

end Enip.ChaCha
