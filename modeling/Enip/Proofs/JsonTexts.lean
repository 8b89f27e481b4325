import Enip.Json.Text

/-!
# Strings, as JSON writes and reads them

What stands between the quotes of a JSON string is a text of characters and escapes.
`Spells text s` says that it stands for the characters `s`, of which each may be written as itself
or in any of the escapes that there are for it. Whoever reads the text gets these characters
(`Spells.readString`), and the text in which they are written is one of those that spell them
(`spells_escapes`).

A text is `Formed` if it has the form of a string, whether or not it stands for any characters: half
of a pair does not. That is enough for one that is passed over (`Formed.passString`).
-/

namespace Enip.Json

/-! ## Blanks -/

/-- A text in which there is nothing but blanks. -/
def Blanks (text : List Char) : Prop := ∀ c ∈ text, isBlank c = true

instance (text : List Char) : Decidable (Blanks text) :=
  decidable_of_iff (text.all isBlank = true) List.all_eq_true

theorem blank_nil : Blanks [] := List.forall_mem_nil _

variable {c : Char} {blanks text rest : List Char}

theorem skipBlanks_append (blank : Blanks blanks) : skipBlanks (blanks ++ text) = skipBlanks text :=
  List.dropWhile_append_of_pos blank

theorem skipBlanks_cons (solid : isBlank c = false) : skipBlanks (c :: text) = c :: text :=
  List.dropWhile_cons_of_neg (by simp [solid])

@[simp] theorem skipBlanks_nil : skipBlanks [] = [] := rfl

/-- A word that is there is passed over. -/
theorem passWord_append (word rest : List Char) : passWord word (word ++ rest) = .ok rest := by
  induction word with
  | nil => rfl
  | cons c word ih => simpa [passWord] using ih

/-! ## Escapes -/

/-- Four hexadecimal digits, and the number that they write. -/
structure IsUnit (digits : List Char) (unit : Nat) : Prop where
  four : digits.length = 4
  hex : ∀ c ∈ digits, Numeral.isDigit 16 c = true
  value : Numeral.value 16 digits = unit

instance (digits : List Char) (unit : Nat) : Decidable (IsUnit digits unit) :=
  decidable_of_iff
    (digits.length = 4 ∧ digits.all (Numeral.isDigit 16) = true ∧ Numeral.value 16 digits = unit)
    ⟨fun ⟨four, hex, value⟩ => ⟨four, List.all_eq_true.1 hex, value⟩,
      fun ⟨four, hex, value⟩ => ⟨four, List.all_eq_true.2 hex, value⟩⟩

theorem IsUnit.readUnit {digits : List Char} {unit : Nat} (isUnit : IsUnit digits unit) :
    readUnit (digits ++ rest) = .ok (unit, rest) := by
  obtain ⟨four, hex, value⟩ := isUnit
  match digits, four with
  | [a, b, c, d], _ =>
    have all : [a, b, c, d].all (Numeral.isDigit 16) = true := List.all_eq_true.2 hex
    rw [List.cons_append, List.cons_append, List.cons_append, List.cons_append, List.nil_append,
      Json.readUnit, if_pos all, value]

/-- What a text between quotes stands for. -/
inductive Spells : List Char → List Char → Prop
  | nil : Spells [] []
  | plain {c : Char} {text s : List Char} (quote : c ≠ '"') (backslash : c ≠ '\\')
    (printable : ¬c.toNat < 0x20) (rest : Spells text s) : Spells (c :: text) (c :: s)
  /-- A letter after a backslash names one. -/
  | named {letter c : Char} {text s : List Char} (named : named? letter = some c)
    (rest : Spells text s) : Spells ('\\' :: letter :: text) (c :: s)
  /-- A unit is the code of one. -/
  | unit {digits : List Char} {c : Char} {text s : List Char} (code : IsUnit digits c.toNat)
    (rest : Spells text s) : Spells ('\\' :: 'u' :: (digits ++ text)) (c :: s)
  /-- Two units are the halves of a pair that stands for one. -/
  | pair {high low : List Char} {first second : Nat} {c : Char} {text s : List Char}
    (leads : IsUnit high first) (follows : IsUnit low second) (isHigh : isHigh first = true)
    (isLow : isLow second = true)
    (code : c.toNat = 0x10000 + (first - 0xD800) * 0x400 + (second - 0xDC00))
    (rest : Spells text s) :
    Spells ('\\' :: 'u' :: (high ++ '\\' :: 'u' :: (low ++ text))) (c :: s)

/-- What has the form of a string, between its quotes. -/
inductive Formed : List Char → Prop
  | nil : Formed []
  | plain {c : Char} {text : List Char} (quote : c ≠ '"') (backslash : c ≠ '\\')
    (printable : ¬c.toNat < 0x20) (rest : Formed text) : Formed (c :: text)
  | named {letter : Char} {text : List Char} (named : (named? letter).isSome)
    (rest : Formed text) : Formed ('\\' :: letter :: text)
  /-- A unit of any value. -/
  | unit {digits : List Char} {unit : Nat} {text : List Char} (isUnit : IsUnit digits unit)
    (rest : Formed text) : Formed ('\\' :: 'u' :: (digits ++ text))

/-! ## Reading -/

section

variable {before s : List Char} {letter d : Char}

theorem readEscape_of_named (named : named? letter = some c) :
    readEscape (letter :: rest) = .ok (c, rest) := by
  unfold readEscape
  split
  · rename_i none
    cases none
  · rename_i unit
    cases unit
    cases named
  · rename_i same
    cases same
    rw [named]

/-- The code of a character is half of no pair. -/
theorem not_isLow_toNat (c : Char) : isLow c.toNat = false ∧ isHigh c.toNat = false := by
  have valid : c.toNat < 0xD800 ∨ (0xDFFF < c.toNat ∧ c.toNat < 0x110000) := c.valid
  simp only [isLow, isHigh, decide_eq_false_iff_not]
  omega

theorem readEscape_of_unit {digits : List Char} (code : IsUnit digits c.toNat) :
    readEscape ('u' :: (digits ++ rest)) = .ok (c, rest) := by
  obtain ⟨low, high⟩ := not_isLow_toNat c
  simp [readEscape, code.readUnit, low, high, bind, Except.bind, pure, Except.pure]

theorem readEscape_of_pair {high low : List Char} {first second : Nat} (leads : IsUnit high first)
    (follows : IsUnit low second) (isHigh : isHigh first = true) (isLow : isLow second = true)
    (code : c.toNat = 0x10000 + (first - 0xD800) * 0x400 + (second - 0xDC00)) :
    readEscape ('u' :: (high ++ '\\' :: 'u' :: (low ++ rest))) = .ok (c, rest) := by
  have other : Json.isLow first = false := by
    simp only [Json.isHigh, Json.isLow, decide_eq_true_eq, decide_eq_false_iff_not] at isHigh ⊢
    omega
  simp [readEscape, readLow, leads.readUnit, follows.readUnit, isHigh, isLow, other, ← code, bind,
    Except.bind, pure, Except.pure]

theorem readString_of_escape (read : readEscape text = .ok (c, rest)) :
    readString before ('\\' :: text) = readString (c :: before) rest := by
  rw [readString]
  split <;> rename_i read'
  · rw [read] at read'
    cases read'
    rfl
  · rw [read] at read'
    cases read'

/-- **Whoever reads a string gets what it stands for.** -/
theorem Spells.readString (spells : Spells text s) :
    readString before (text ++ '"' :: rest) = .ok (before.reverse ++ s, rest) := by
  induction spells generalizing before with
  | nil => simp [Json.readString]
  | @plain c text s quote backslash printable _ ih =>
    have step : Json.readString before (c :: (text ++ '"' :: rest)) =
        Json.readString (c :: before) (text ++ '"' :: rest) := by
      rw [Json.readString]
      · exact if_neg printable
      · exact quote
      · exact backslash
    rw [List.cons_append, step, ih]
    simp
  | named named _ ih =>
    rw [List.cons_append, List.cons_append, readString_of_escape (readEscape_of_named named), ih]
    simp
  | unit code _ ih =>
    rw [List.cons_append, List.cons_append, List.append_assoc,
      readString_of_escape (readEscape_of_unit code), ih]
    simp
  | pair high low isHigh isLow code _ ih =>
    rw [List.cons_append, List.cons_append, List.append_assoc, List.cons_append, List.cons_append,
      List.append_assoc, readString_of_escape (readEscape_of_pair high low isHigh isLow code), ih]
    simp

theorem passEscape_of_named (named : (named? letter).isSome) :
    passEscape (letter :: rest) = .ok rest := by
  unfold passEscape
  split
  · rename_i none
    cases none
  · rename_i unit
    cases unit
    cases named
  · rename_i same
    cases same
    rw [if_pos named]

theorem passString_of_escape (passed : passEscape text = .ok rest) :
    passString ('\\' :: text) = passString rest := by
  rw [passString]
  split <;> rename_i passed'
  · rw [passed] at passed'
    cases passed'
    rfl
  · rw [passed] at passed'
    cases passed'

/-- A string that nobody asked for is passed over. -/
theorem Formed.passString (formed : Formed text) : passString (text ++ '"' :: rest) = .ok rest := by
  induction formed with
  | nil => simp [Json.passString]
  | @plain c text quote backslash printable _ ih =>
    have step : Json.passString (c :: (text ++ '"' :: rest)) =
        Json.passString (text ++ '"' :: rest) := by
      rw [Json.passString]
      · exact if_neg printable
      · exact quote
      · exact backslash
    rw [List.cons_append, step, ih]
  | named named _ ih =>
    rw [List.cons_append, List.cons_append, passString_of_escape (passEscape_of_named named), ih]
  | @unit digits unit text isUnit _ ih =>
    have passed : passEscape ('u' :: (digits ++ (text ++ '"' :: rest))) =
        .ok (text ++ '"' :: rest) := by
      simp [passEscape, isUnit.readUnit, Except.map]
    rw [List.cons_append, List.cons_append, List.append_assoc, passString_of_escape passed, ih]

/-! ## Writing -/

theorem digitValue_digitChar {digit : Nat} (small : digit < 16) :
    Numeral.digitValue (Nat.digitChar digit) = digit := by
  revert digit
  decide

/-- The code of a control character is written in four digits. -/
theorem isUnit_controlCode (control : c.toNat < 0x20) :
    IsUnit ('0' :: '0' :: controlCode c) c.toNat := by
  have high := digitValue_digitChar (show c.toNat / 16 < 16 by omega)
  have low := digitValue_digitChar (show c.toNat % 16 < 16 by omega)
  have zero : Numeral.digitValue '0' = 0 := by decide
  refine ⟨rfl, ?_, ?_⟩
  · simp only [controlCode, List.forall_mem_cons, Numeral.isDigit, high, low, zero,
      decide_eq_true_eq]
    refine ⟨by omega, by omega, by omega, by omega, nofun⟩
  · simp only [Numeral.value, controlCode, List.foldl_cons, List.foldl_nil, high, low, zero]
    omega

theorem spells_escape (c : Char) (spells : Spells text s) :
    Spells (escape c ++ text) (c :: s) := by
  unfold escape
  -- Seven characters have names.
  iterate 7
    split
    · rename_i same
      subst same
      exact .named rfl spells
  split
  · rename_i control
    exact .unit (isUnit_controlCode control) spells
  · rename_i quote backslash _ _ _ _ _ printable
    exact .plain quote backslash printable spells

/-- **A string is written in one of the ways in which it is read.** -/
theorem spells_escapes (s : List Char) : Spells (s.flatMap escape) s := by
  induction s with
  | nil => exact .nil
  | cons c s ih => exact spells_escape c ih

/-- It may be written otherwise. -/
example : Spells ['a', '\\', '/', '\\', 'u', '0', '0', 'E', '9'] ['a', '/', 'é'] := by
  have code : IsUnit ['0', '0', 'E', '9'] 'é'.toNat := by decide
  exact .plain (by decide) (by decide) (by decide) (.named rfl (.unit code .nil))

end

end Enip.Json
