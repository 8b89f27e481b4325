import Mathlib.Data.List.Basic
import Enip.Frame.Dump
import Enip.Text.Numeral

/-!
# Reading a dump

A dump determines its frame. The lines of the text are those between its line breaks (`linesOf`),
and each can be told from the bytes at its columns alone, without cutting the frame into rows first
(`lineAt`). What stands in the hexadecimal columns is read back by place (`readLine`): the first
cell follows the hyphen, there are never more than sixteen, and none follows one that is blank. So
neither the blanks of a short line nor the characters after them are taken for bytes, and
`text_determines` says that the bytes of all lines together are the frame.
-/

namespace Enip

/-! ## Upper-case hexadecimal -/

namespace Hex

/-- A number in upper-case hexadecimal, filled up with zeros to at least `width` digits. -/
def upper (width n : Nat) : List Char :=
  ((Nat.toDigits 16 n).map Char.toUpper).leftpad width '0'

theorem digit_eq {n : Nat} (small : n < 16) : digit n = (Nat.digitChar n).toUpper := by
  revert n
  decide

theorem digitValue_digit {n : Nat} (small : n < 16) : Numeral.digitValue (digit n) = n := by
  revert n
  decide

theorem digits_eq (n : Nat) : digits n = (Nat.toDigits 16 n).map Char.toUpper := by
  fun_induction digits n with
  | case1 n small => rw [Nat.toDigits_of_lt_base small, digit_eq small, List.map_singleton]
  | case2 n large ih =>
    have rest : n % 16 < 16 := Nat.mod_lt n (by decide)
    rw [ih, Nat.toDigits_of_base_le (by decide) (Nat.le_of_not_lt large), List.map_append,
      digit_eq rest, List.map_singleton]

theorem padded_eq (width n : Nat) : padded width n = upper width n := by
  rw [padded, digits_eq, upper, List.leftpad]

/-- A byte has two digits, the first of which may be a zero that fills up. -/
theorem byte_eq (b : UInt8) : byte b = upper 2 b.toNat := by
  have small : b.toNat < 256 := b.toNat_lt
  have high : b.toNat / 16 < 16 := by omega
  rw [← padded_eq, padded, byte, digits]
  by_cases one : b.toNat < 16
  · have zero : b.toNat / 16 = 0 := by omega
    have same : b.toNat % 16 = b.toNat := by omega
    rw [if_pos one, zero, same]
    rfl
  · rw [if_neg one, digits, if_pos high]
    rfl

theorem mem_digits {n : Nat} {c : Char} (member : c ∈ digits n) : ∃ k < 16, c = digit k := by
  fun_induction digits n with
  | case1 n small => exact ⟨n, small, List.mem_singleton.1 member⟩
  | case2 n large ih =>
    rcases List.mem_append.1 member with before | last
    · exact ih before
    · exact ⟨n % 16, Nat.mod_lt n (by decide), List.mem_singleton.1 last⟩

theorem mem_padded {width n : Nat} {c : Char} (member : c ∈ padded width n) :
    ∃ k < 16, c = digit k := by
  rcases List.mem_append.1 member with zero | digit
  · exact ⟨0, by decide, List.eq_of_mem_replicate zero⟩
  · exact mem_digits digit

end Hex

namespace Dump

/-! ## What the lines show -/

/-- The lines of a text, between its line breaks. A text with nothing in it has none. -/
def linesOf (text : List Char) : List (List Char) :=
  if text = [] then [] else text.splitOn '\n'

/-- What stands at a place of the hexadecimal columns, for a byte or for none. -/
def place : Option UInt8 → List Char
  | some byte => ' ' :: Hex.upper 2 byte.toNat
  | none => [' ', ' ', ' ']

/-- The character whose code a byte is, if that is one from the space to the tilde. -/
def character (byte : UInt8) : Char :=
  if byte.toNat < 0x20 ∨ 0x7E < byte.toNat then '.' else Char.ofNat byte.toNat

/-- The line with a given number, from the bytes at its sixteen columns. -/
def lineAt (data : Bytes) (number : Nat) : List Char :=
  Hex.upper 4 (16 * number) ++ [' ', '-'] ++
    (List.range 16).flatMap (fun column => place data[16 * number + column]?) ++ [' ', ' '] ++
    (List.range 16).filterMap fun column => data[16 * number + column]?.map character

theorem cell_eq (byte : UInt8) : cell byte = place (some byte) := by
  rw [cell, Hex.byte_eq, place]

theorem isGraphic_iff (byte : UInt8) :
    isGraphic byte = true ↔ 0x20 < byte.toNat ∧ byte.toNat ≤ 0x7E := decide_eq_true_iff

theorem glyph_eq : glyph = character := by
  funext byte
  have space : byte = 0x20 ↔ byte.toNat = 0x20 := UInt8.toNat_inj.symm
  simp only [glyph, isGraphic_iff, space, character]
  split <;> split
  · omega
  · rfl
  · rfl
  · omega

/-- The cells of a row and the blank ones after them, column by column. -/
theorem cells_eq {count : Nat} {row : Bytes} (fits : row.length ≤ count) :
    row.flatMap cell ++ (List.replicate (count - row.length) blankCell).flatten =
      (List.range count).flatMap fun column => place row[column]? := by
  induction row generalizing count with
  | nil => simp [place, blankCell, List.flatMap_def, List.map_const']
  | cons byte row ih =>
    cases count with
    | zero => simp at fits
    | succ count =>
      rw [List.flatMap_cons, List.length_cons, Nat.add_sub_add_right, List.append_assoc,
        ih (by simpa using fits), List.range_succ_eq_map, List.flatMap_cons, List.flatMap_map,
        cell_eq]
      rfl

/-- The characters of a row, column by column. -/
theorem glyphs_eq {count : Nat} {row : Bytes} (fits : row.length ≤ count) :
    row.map glyph = (List.range count).filterMap fun column => row[column]?.map character := by
  rw [glyph_eq]
  induction row generalizing count with
  | nil => simp
  | cons byte row ih =>
    cases count with
    | zero => simp at fits
    | succ count =>
      rw [List.map_cons, ih (by simpa using fits), List.range_succ_eq_map, List.filterMap_cons,
        List.filterMap_map]
      rfl

/-- A line, column by column. -/
theorem line_of_columns (offset : Nat) {row : Bytes} (fits : row.length ≤ width) :
    line offset row = Hex.upper 4 offset ++ [' ', '-'] ++
      (List.range width).flatMap (fun column => place row[column]?) ++ [' ', ' '] ++
      (List.range width).filterMap fun column => row[column]?.map character := by
  rw [line, Hex.padded_eq, List.append_assoc (_ ++ _) (List.flatMap _ _), cells_eq fits,
    glyphs_eq fits]

/-- The line of a row is the line that has its number. -/
theorem line_eq (data : Bytes) (number : Nat) :
    line (16 * number) ((data.drop (16 * number)).take width) = lineAt data number := by
  have same (column : Nat) (within : column ∈ List.range width) :
      ((data.drop (16 * number)).take width)[column]? = data[16 * number + column]? := by
    rw [List.getElem?_take_of_lt (List.mem_range.1 within), List.getElem?_drop]
  rw [line_of_columns (16 * number) (List.length_take_le ..),
    List.flatMap_congr fun column within => congrArg place (same column within),
    List.filterMap_congr fun column within => congrArg (Option.map character) (same column within)]
  rfl

/-- The lines of the rows are the lines with their numbers. -/
theorem linesFrom_rows (data : Bytes) (offset : Nat) :
    linesFrom offset (rows data) = (List.range ((data.length + 15) / 16)).map fun number =>
      line (offset + 16 * number) ((data.drop (16 * number)).take width) := by
  fun_induction rows data generalizing offset with
  | case1 => rfl
  | case2 data some ih =>
    have count : (data.length + 15) / 16 = ((data.drop width).length + 15) / 16 + 1 := by
      have := List.length_pos_iff.2 some
      rw [List.length_drop, width]
      omega
    rw [linesFrom, ih, count, List.range_succ_eq_map, List.map_cons, List.map_map]
    congr 1
    -- The lines of the remaining rows, each with the number that it has in the whole frame.
    refine List.map_congr_left fun number _ => ?_
    have next : 16 * (number + 1) = width + 16 * number := by rw [width]; omega
    rw [Function.comp_apply, List.drop_drop, next, Nat.add_assoc]

/-! ## Printable characters -/

/-- A character that is printed as itself, and breaks no line. -/
def Printable (c : Char) : Prop := 0x20 ≤ c.toNat ∧ c.toNat ≤ 0x7E

instance (c : Char) : Decidable (Printable c) := inferInstanceAs (Decidable (_ ∧ _))

theorem printable_digit {n : Nat} (small : n < 16) : Printable (Hex.digit n) := by
  revert n
  decide

theorem printable_glyph (byte : UInt8) : Printable (glyph byte) := by
  have self : ∀ n < 0x7F, 0x20 ≤ n → Printable (Char.ofNat n) := by decide
  rw [glyph_eq, character]
  split
  · decide
  · exact self _ (by omega) (by omega)

theorem printable_cell {byte : UInt8} {c : Char} (member : c ∈ cell byte) : Printable c := by
  have small : byte.toNat < 256 := byte.toNat_lt
  simp only [cell, Hex.byte, List.mem_cons, List.not_mem_nil, or_false] at member
  rcases member with rfl | rfl | rfl
  · decide
  · exact printable_digit (by omega)
  · exact printable_digit (by omega)

theorem printable_line {offset : Nat} {row : Bytes} {c : Char} (member : c ∈ line offset row) :
    Printable c := by
  have space : Printable ' ' := by decide
  simp only [line, List.mem_append, List.mem_flatMap, List.mem_flatten, List.mem_map,
    List.mem_cons, List.not_mem_nil, or_false] at member
  rcases member with ((((digit | rfl | rfl) | ⟨byte, -, cell⟩) | ⟨cell, blank, within⟩) |
    rfl | rfl) | ⟨byte, -, rfl⟩
  · obtain ⟨k, small, rfl⟩ := Hex.mem_padded digit
    exact printable_digit small
  · exact space
  · decide
  · exact printable_cell cell
  · rw [List.eq_of_mem_replicate blank] at within
    simp only [blankCell, List.mem_cons, List.not_mem_nil, or_false, or_self] at within
    exact within ▸ space
  · exact space
  · exact space
  · exact printable_glyph byte

theorem line_ne_nil (offset : Nat) (row : Bytes) : line offset row ≠ [] := by
  simp [line]

/-- Each of the lines is the line of a row. -/
theorem mem_linesFrom {offset : Nat} {rows : List Bytes} {shown : List Char}
    (member : shown ∈ linesFrom offset rows) : ∃ offset row, shown = line offset row := by
  induction rows generalizing offset with
  | nil => cases member
  | cons row rows ih =>
    rcases List.mem_cons.1 member with rfl | later
    · exact ⟨offset, row, rfl⟩
    · exact ih later

section

variable {data : Bytes} {shown : List Char} (member : shown ∈ lines data)

include member

theorem ne_nil_of_mem_lines : shown ≠ [] := by
  obtain ⟨offset, row, rfl⟩ := mem_linesFrom member
  exact line_ne_nil offset row

theorem printable_of_mem_lines {c : Char} (within : c ∈ shown) : Printable c := by
  obtain ⟨offset, row, rfl⟩ := mem_linesFrom member
  exact printable_line within

theorem unbroken_of_mem_lines : '\n' ∉ shown := by
  intro within
  exact absurd (printable_of_mem_lines member within) (by decide)

end

/-! ## Line breaks -/

theorem intercalate_ne_nil {lines : List (List Char)} (some : lines ≠ [])
    (nonempty : ∀ line ∈ lines, line ≠ []) : ['\n'].intercalate lines ≠ [] := by
  obtain ⟨line, lines, rfl⟩ := List.exists_cons_of_ne_nil some
  have := nonempty line List.mem_cons_self
  cases lines <;> simp [this]

/-- There is no line break after the last line. -/
theorem getLast?_intercalate_ne {lines : List (List Char)} (nonempty : ∀ line ∈ lines, line ≠ [])
    (unbroken : ∀ line ∈ lines, '\n' ∉ line) :
    (['\n'].intercalate lines).getLast? ≠ some '\n' := by
  induction lines with
  | nil => simp
  | cons line lines ih =>
    rw [List.forall_mem_cons] at nonempty unbroken
    by_cases last : lines = []
    · rw [last, List.intercalate_singleton]
      exact fun ends => unbroken.1 (List.mem_of_getLast? ends)
    · rw [List.intercalate_cons_of_ne_nil last,
        List.getLast?_append_of_ne_nil _ (intercalate_ne_nil last nonempty.2)]
      exact ih nonempty.2 unbroken.2

/-- The lines of a text that was put together from lines are these. -/
theorem linesOf_intercalate {lines : List (List Char)} (nonempty : ∀ line ∈ lines, line ≠ [])
    (unbroken : ∀ line ∈ lines, '\n' ∉ line) : linesOf (['\n'].intercalate lines) = lines := by
  by_cases none : lines = []
  · rw [none]
    rfl
  · rw [linesOf, if_neg (intercalate_ne_nil none nonempty),
      List.splitOn_intercalate '\n' unbroken none]

theorem toList_text (data : Bytes) : (text data).toList = ['\n'].intercalate (lines data) := by
  rw [text, String.toList_ofList]

/-- The lines of a dump are those that it was put together from. -/
theorem linesOf_text (data : Bytes) : linesOf (text data).toList = lines data := by
  rw [toList_text]
  exact linesOf_intercalate (fun _ => ne_nil_of_mem_lines) fun _ => unbroken_of_mem_lines

/-! ## Reading back -/

/-- The bytes of the cells at the front of a text: of so many cells, or of fewer if one is
blank. -/
def readCells : Nat → List Char → Bytes
  | count + 1, ' ' :: high :: low :: rest =>
    if high = ' ' then [] else .ofNat (Numeral.value 16 [high, low]) :: readCells count rest
  | _, _ => []

/-- The bytes of a line, from the sixteen cells after the hyphen. -/
def readLine (line : List Char) : Bytes := readCells 16 ((line.dropWhile (· ≠ '-')).drop 1)

/-- The bytes of all lines of a text. -/
def read (text : String) : Bytes := (linesOf text.toList).flatMap readLine

theorem readCells_cell (count : Nat) (byte : UInt8) (rest : List Char) :
    readCells (count + 1) (cell byte ++ rest) = byte :: readCells count rest := by
  have small : byte.toNat < 256 := byte.toNat_lt
  have high : byte.toNat / 16 < 16 := by omega
  have solid : ∀ k < 16, Hex.digit k ≠ ' ' := by decide
  have value : Numeral.value 16 [Hex.digit (byte.toNat / 16), Hex.digit (byte.toNat % 16)] =
      byte.toNat := by
    simp only [Numeral.value, List.foldl_cons, List.foldl_nil, Hex.digitValue_digit high,
      Hex.digitValue_digit (Nat.mod_lt byte.toNat (by decide : 16 > 0))]
    omega
  simp only [cell, Hex.byte, List.cons_append, List.nil_append, readCells, if_neg (solid _ high),
    value, UInt8.ofNat_toNat]

/-- The cells of a row are read back, and neither the blank ones after them nor what follows these
is read. -/
theorem readCells_row {count : Nat} {row : Bytes} (fits : row.length ≤ count) (rest : List Char) :
    readCells count (row.flatMap cell ++
      ((List.replicate (count - row.length) blankCell).flatten ++ rest)) = row := by
  induction row generalizing count with
  | nil =>
    cases count with
    | zero => rfl
    | succ count => rfl
  | cons byte row ih =>
    cases count with
    | zero => simp at fits
    | succ count =>
      rw [List.flatMap_cons, List.append_assoc, readCells_cell, List.length_cons,
        Nat.add_sub_add_right, ih (by simpa using fits)]

theorem readLine_line (offset : Nat) {row : Bytes} (fits : row.length ≤ width) :
    readLine (line offset row) = row := by
  -- However many digits the offset has, the first hyphen is the one behind them.
  have digits : ∀ c ∈ Hex.padded 4 offset ++ [' '], decide (c ≠ '-') = true := by
    intro c member
    rcases List.mem_append.1 member with digit | space
    · obtain ⟨k, small, rfl⟩ := Hex.mem_padded digit
      have : ∀ k < 16, Hex.digit k ≠ '-' := by decide
      exact decide_eq_true (this k small)
    · rw [List.mem_singleton.1 space]
      rfl
  have split : line offset row = (Hex.padded 4 offset ++ [' ']) ++ '-' :: (row.flatMap cell ++
      ((List.replicate (width - row.length) blankCell).flatten ++
        ([' ', ' '] ++ row.map glyph))) := by
    simp [line]
  rw [readLine, split, List.dropWhile_append_of_pos digits,
    List.dropWhile_cons_of_neg (by decide), List.drop_one, List.tail_cons]
  exact readCells_row fits _

theorem length_le_of_mem_rows {data row : Bytes} (member : row ∈ rows data) :
    row.length ≤ width := by
  fun_induction rows data with
  | case1 => cases member
  | case2 data some ih =>
    rcases List.mem_cons.1 member with rfl | later
    · exact List.length_take_le ..
    · exact ih later

theorem flatten_rows (data : Bytes) : (rows data).flatten = data := by
  fun_induction rows data with
  | case1 => rfl
  | case2 data some ih => rw [List.flatten_cons, ih, List.take_append_drop]

theorem readLine_linesFrom {rows : List Bytes} (fits : ∀ row ∈ rows, row.length ≤ width)
    (offset : Nat) : (linesFrom offset rows).flatMap readLine = rows.flatten := by
  induction rows generalizing offset with
  | nil => rfl
  | cons row rows ih =>
    rw [List.forall_mem_cons] at fits
    rw [linesFrom, List.flatMap_cons, readLine_line offset fits.1, ih fits.2, List.flatten_cons]

theorem read_text (data : Bytes) : read (text data) = data := by
  rw [read, linesOf_text, lines, readLine_linesFrom (fun _ => length_le_of_mem_rows), flatten_rows]

/-- **A dump determines the frame.** It does not end with a line break, and has a line for every
sixteen bytes and one for those that are left. Line by line, it shows the offset in hexadecimal, a
cell for each byte and blanks for those that are not there, and a character for each byte; all of
this is printable. Reading the cells back yields the frame, so no other frame has the same dump. -/
theorem text_determines (data : Bytes) :
    (text data).toList.getLast? ≠ some '\n' ∧
    linesOf (text data).toList =
      (List.range ((data.length + 15) / 16)).map (lineAt data) ∧
    (∀ shown ∈ linesOf (text data).toList, ∀ c ∈ shown, Printable c) ∧
    read (text data) = data ∧
    ∀ other, text other = text data → other = data := by
  rw [linesOf_text]
  refine ⟨?_, ?_, fun _ member _ within => printable_of_mem_lines member within, read_text data,
    fun other same => ?_⟩
  · rw [toList_text]
    exact getLast?_intercalate_ne (fun _ => ne_nil_of_mem_lines) fun _ => unbroken_of_mem_lines
  · rw [lines, linesFrom_rows]
    refine List.map_congr_left fun number _ => ?_
    rw [Nat.zero_add, line_eq]
  · calc other
      _ = read (text other) := (read_text other).symm
      _ = read (text data) := by rw [same]
      _ = data := read_text data

/-- The characters of a frame may look like cells. -/
example : text [0x20, 0x34, 0x31] =
    "0000 - 20 34 31                                          41" := by
  decide +kernel

end Dump

end Enip
