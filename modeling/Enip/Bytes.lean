/-!
# Bytes and little-endian numbers

A frame is a list of bytes, and every number in it is little-endian: least significant byte
first.

* `littleEndian width n` writes `n` in exactly `width` bytes (`length_littleEndian`), and
  `ofLittleEndian` reads bytes as a number. Reading undoes writing up to the room there is
  (`ofLittleEndian_littleEndian`), and writing undoes reading (`littleEndian_ofLittleEndian`).
* `readNat? width` takes a number of `width` bytes off the front of a byte string, and
  `readBytes?` that many bytes as they are.
* `resize` brings a byte string to a given length.
-/

namespace Enip

/-- A string of bytes, first byte first. -/
abbrev Bytes := List UInt8

namespace Bytes

/-! ## Numbers in a fixed width -/

/-- The `width` little-endian bytes of `n`. What does not fit is dropped. -/
def littleEndian : Nat → Nat → Bytes
  | 0, _ => []
  | width + 1, n => UInt8.ofNat n :: littleEndian width (n / 256)

/-- The number with the given little-endian bytes. -/
def ofLittleEndian : Bytes → Nat
  | [] => 0
  | byte :: rest => byte.toNat + 256 * ofLittleEndian rest

@[simp] theorem length_littleEndian (width n : Nat) : (littleEndian width n).length = width := by
  induction width generalizing n with
  | zero => rfl
  | succ width ih => simp [littleEndian, ih]

/-- Writing in `width` bytes keeps a number modulo the numbers they can tell apart. -/
theorem ofLittleEndian_littleEndian (width n : Nat) :
    ofLittleEndian (littleEndian width n) = n % Nat.pow 256 width := by
  induction width generalizing n with
  | zero => simp [littleEndian, ofLittleEndian, Nat.mod_one]
  | succ width ih =>
    have step : Nat.pow 256 (width + 1) = 256 * Nat.pow 256 width := Nat.mul_comm _ _
    rw [littleEndian, ofLittleEndian, ih, step, Nat.mod_mul]
    simp

/-- The bytes of a number are a function of it: no two byte strings of one length agree. -/
theorem littleEndian_ofLittleEndian (bytes : Bytes) :
    littleEndian bytes.length (ofLittleEndian bytes) = bytes := by
  induction bytes with
  | nil => rfl
  | cons byte rest ih =>
    have small : byte.toNat < 256 := byte.toNat_lt
    have tail : (byte.toNat + 256 * ofLittleEndian rest) / 256 = ofLittleEndian rest := by omega
    have head : UInt8.ofNat (byte.toNat + 256 * ofLittleEndian rest) = byte := by
      apply UInt8.toNat.inj
      simp
    rw [List.length_cons, ofLittleEndian, littleEndian, tail, ih, head]

/-! ## Taking fields off the front -/

/-- The first `width` bytes and the rest, if there are so many. -/
def readBytes? (width : Nat) (data : Bytes) : Option (Bytes × Bytes) :=
  if data.length < width then none else some (data.take width, data.drop width)

/-- The little-endian number in the first `width` bytes and the rest, if there are so many. -/
def readNat? (width : Nat) (data : Bytes) : Option (Nat × Bytes) :=
  (readBytes? width data).map fun (field, rest) => (ofLittleEndian field, rest)

theorem readBytes?_eq_none_iff {width : Nat} {data : Bytes} :
    readBytes? width data = none ↔ data.length < width := by
  simp [readBytes?]

/-- A field that was written is read back, whatever follows it. -/
theorem readBytes?_append {field rest : Bytes} :
    readBytes? field.length (field ++ rest) = some (field, rest) := by
  simp [readBytes?]

/-- A number that was written is read back as far as there was room for it. -/
theorem readNat?_littleEndian (width n : Nat) (rest : Bytes) :
    readNat? width (littleEndian width n ++ rest) = some (n % Nat.pow 256 width, rest) := by
  have field : readBytes? (littleEndian width n).length (littleEndian width n ++ rest) =
      some (littleEndian width n, rest) := readBytes?_append
  rw [length_littleEndian] at field
  rw [readNat?, field, ← ofLittleEndian_littleEndian]
  rfl

/-! ## Changing the length -/

/-- The bytes brought to a given length: cut off there, or followed by zeros. -/
def resize (bytes : Bytes) (length : Nat) : Bytes :=
  bytes.take length ++ List.replicate (length - bytes.length) 0

@[simp] theorem length_resize (bytes : Bytes) (length : Nat) :
    (bytes.resize length).length = length := by
  simp [resize]
  omega

end Bytes

end Enip
