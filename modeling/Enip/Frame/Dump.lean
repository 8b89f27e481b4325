import Enip.Bytes
import Enip.Text.Hex

/-!
# Frame dumps

A dump shows a byte string in lines of sixteen bytes: the offset of the line, the bytes in
hexadecimal, and the bytes as characters, where one that is not printable is a point.

```text
0000 - 65 00 04 00 00 00 00 00 00 00 00 00 00 00 00 00  e...............
0010 - 00 00 00 00 00 00 00 00 01 00 00 00              ............
```
-/

namespace Enip.Dump

/-- How many bytes stand on a line. -/
def width : Nat := 16

/-- The bytes of each line. All lines but the last are full, and none is empty. -/
def rows (data : Bytes) : List Bytes :=
  if data = [] then [] else data.take width :: rows (data.drop width)
termination_by data.length
decreasing_by
  have : data.length ≠ 0 := by simpa using ‹_›
  simp [width]
  omega

/-- A byte in the hexadecimal column. -/
def cell (byte : UInt8) : List Char := ' ' :: Hex.byte byte

/-- The place of a byte that is not there. -/
def blankCell : List Char := [' ', ' ', ' ']

/-- Whether a byte is a character that leaves a mark. -/
def isGraphic (byte : UInt8) : Bool := 0x21 ≤ byte ∧ byte ≤ 0x7E

/-- A byte in the character column. -/
def glyph (byte : UInt8) : Char :=
  if isGraphic byte ∨ byte = 0x20 then Char.ofNat byte.toNat else '.'

/-- The line of at most sixteen bytes that begins at `offset`. -/
def line (offset : Nat) (row : Bytes) : List Char :=
  Hex.padded 4 offset ++ [' ', '-'] ++ row.flatMap cell ++
    (List.replicate (width - row.length) blankCell).flatten ++ [' ', ' '] ++ row.map glyph

/-- The lines of the given rows, the first of which begins at `offset`. -/
def linesFrom (offset : Nat) : List Bytes → List (List Char)
  | [] => []
  | row :: rows => line offset row :: linesFrom (offset + width) rows

/-- The lines of the dump. -/
def lines (data : Bytes) : List (List Char) := linesFrom 0 (rows data)

/-- The dump: its lines, with a line break between one and the next. -/
def text (data : Bytes) : String := String.ofList (['\n'].intercalate (lines data))

end Enip.Dump
