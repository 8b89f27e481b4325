import Enip.Json.Skip
import Enip.Proofs.JsonNumbers

/-!
# Values, as JSON nests them

The grammar of RFC 8259: a value is a scalar, or brackets with nothing but blanks between them, or
brackets with entries that are separated by commas (`WellFormed`). Every value that has this form is
passed over, however deep it is nested (`WellFormed.skipValue`).

The brackets that are open are kept in a list, and passing over a value leaves it as it was. So the
induction is on the form of the value, with any list of open brackets around it (`Skips`).
-/

namespace Enip.Json

variable {first : Char} {text rest blanks : List Char} {enclosing outer : List Bracket}
  {bracket : Bracket}

/-! ## Scalars -/

/-- A value without brackets. -/
inductive IsScalar : List Char → Prop
  | string {text : List Char} (formed : Formed text) : IsScalar ('"' :: (text ++ ['"']))
  | word {text : List Char}
    (word : text ∈ ["null".toList, "true".toList, "false".toList]) : IsScalar text
  | number {sign integer fraction exponent : List Char} (signed : sign = [] ∨ sign = ['-'])
    (isInteger : IsInteger integer) (isFraction : IsFraction fraction)
    (isExponent : IsExponent exponent) :
    IsScalar (sign ++ (integer ++ (fraction ++ exponent)))

theorem passNumber_append {integer fraction exponent : List Char} (isInteger : IsInteger integer)
    (isFraction : IsFraction fraction) (isExponent : IsExponent exponent) (ends : Ends rest) :
    passNumber (integer ++ (fraction ++ exponent) ++ rest) = .ok rest := by
  obtain ⟨numeral, read⟩ := readNumeral_append false isInteger isFraction isExponent ends
  rw [passNumber, List.append_assoc, List.append_assoc, read]

/-- A digit begins a number. -/
theorem passScalar_of_digit (digit : first.isDigit = true) :
    passScalar first text = passNumber (first :: text) := by
  have other (c : Char) : c.isDigit = false → first ≠ c := ne_of_isDigit digit
  simp [passScalar, digit, other '"' rfl, other 'n' rfl, other 't' rfl, other 'f' rfl,
    other '-' rfl]

/-- A scalar is passed over. -/
theorem IsScalar.passScalar (isScalar : IsScalar text) (ends : Ends rest) :
    ∃ first tail, text = first :: tail ∧ passScalar first (tail ++ rest) = .ok rest := by
  cases isScalar with
  | string formed =>
    refine ⟨'"', _, rfl, ?_⟩
    rw [List.append_assoc]
    exact formed.passString
  | word word =>
    simp only [List.mem_cons, List.not_mem_nil, or_false] at word
    rcases word with rfl | rfl | rfl
    · exact ⟨'n', _, rfl, passWord_append _ rest⟩
    · exact ⟨'t', _, rfl, passWord_append _ rest⟩
    · exact ⟨'f', _, rfl, passWord_append _ rest⟩
  | number signed isInteger isFraction isExponent =>
    have passed := passNumber_append isInteger isFraction isExponent ends
    rcases signed with rfl | rfl
    · obtain ⟨first, tail, rfl⟩ := List.exists_cons_of_ne_nil isInteger.isDigits.some
      refine ⟨first, _, rfl, ?_⟩
      rw [passScalar_of_digit (isInteger.isDigits.all first List.mem_cons_self)]
      exact passed
    · exact ⟨'-', _, rfl, passed⟩

/-- No scalar begins with a blank or a bracket. -/
theorem ne_of_passScalar {c : Char} (passed : passScalar first text = .ok rest)
    (other : c ∉ ['"', 'n', 't', 'f', '-']) (none : c.isDigit = false) : first ≠ c := by
  rintro rfl
  simp only [List.mem_cons, List.not_mem_nil, or_false, not_or] at other
  simp [passScalar, other, none] at passed

theorem solid_of_passScalar (passed : passScalar first text = .ok rest) :
    isBlank first = false := by
  have ne {c : Char} := ne_of_passScalar (c := c) passed
  simp [isBlank, ne (c := ' ') (by decide) rfl, ne (c := '\n') (by decide) rfl,
    ne (c := '\t') (by decide) rfl, ne (c := '\r') (by decide) rfl]

/-! ## Brackets -/

/-- The character that opens a bracket. -/
def Bracket.opening : Bracket → Char
  | list => '['
  | object => '\x7b'

theorem skipBlanks_closing (bracket : Bracket) (rest : List Char) :
    skipBlanks (bracket.closing :: rest) = bracket.closing :: rest :=
  skipBlanks_cons (by cases bracket <;> rfl)

/-- The text after the entries of a bracket, of which there is one at least. -/
def skipEntries (bracket : Bracket) (outer : List Bracket) (text : List Char) :
    Except Fault (List Char) :=
  match bracket with
  | .list => skipInside (.list :: outer) text
  | .object =>
    match passKey text with
    | .error fault => .error fault
    | .ok rest => skipInside (.object :: outer) rest

/-- What begins with something else than the end of a bracket. -/
def Leads (text : List Char) : Prop :=
  ∃ first tail, skipBlanks text = first :: tail ∧ first ≠ ']' ∧ first ≠ '\x7d'

theorem Leads.append (leads : Leads text) (more : List Char) : Leads (text ++ more) := by
  obtain ⟨first, tail, start, other⟩ := leads
  refine ⟨first, tail ++ more, ?_, other⟩
  have some : ¬(text.dropWhile isBlank).isEmpty := by
    rw [skipBlanks] at start
    simp [start]
  rw [skipBlanks, List.dropWhile_append, if_neg some]
  exact congrArg (· ++ more) start

theorem Leads.of_blanks (blank : Blanks blanks) (leads : Leads text) : Leads (blanks ++ text) := by
  rw [Leads, skipBlanks_append blank]
  exact leads

theorem Leads.of_solid (solid : isBlank first = false) (list : first ≠ ']')
    (object : first ≠ '\x7d') : Leads (first :: text) :=
  ⟨first, text, skipBlanks_cons solid, list, object⟩

/-- The beginning of brackets is not their end. -/
theorem leads_opening (bracket : Bracket) (text : List Char) : Leads (bracket.opening :: text) := by
  cases bracket
  · exact .of_solid rfl (by decide) (by decide)
  · exact .of_solid rfl (by decide) (by decide)

theorem skipInside_scalar (passed : passScalar first text = .ok rest) :
    skipInside enclosing (first :: text) = skipAfter enclosing rest := by
  have start : skipBlanks (first :: text) = first :: text :=
    skipBlanks_cons (solid_of_passScalar passed)
  have list := ne_of_passScalar (c := '[') passed (by decide) rfl
  have object := ne_of_passScalar (c := '\x7b') passed (by decide) rfl
  rw [skipInside]
  split <;> rename_i start'
  all_goals
    rw [start] at start'
    cases start'
  · exact absurd rfl list
  · exact absurd rfl object
  · rw [passed]

/-- Brackets with something between them. -/
theorem skipInside_opening (leads : Leads text) :
    skipInside enclosing (bracket.opening :: text) = skipEntries bracket enclosing text := by
  obtain ⟨first, tail, start, list, object⟩ := leads
  rw [skipInside]
  cases bracket with
  | list =>
    rw [skipBlanks_cons rfl]
    simp only [Bracket.opening, skipEntries]
    rw [start]
    simp [list]
  | object =>
    rw [skipBlanks_cons rfl]
    simp only [Bracket.opening, skipEntries]
    rw [start]
    rcases passKey text with fault | after <;> simp [object]

/-- Brackets with nothing between them. -/
theorem skipInside_empty (blank : Blanks blanks) :
    skipInside enclosing (bracket.opening :: (blanks ++ bracket.closing :: rest)) =
      skipAfter enclosing rest := by
  have start : skipBlanks (blanks ++ bracket.closing :: rest) = bracket.closing :: rest := by
    rw [skipBlanks_append blank, skipBlanks_closing]
  rw [skipInside]
  cases bracket
  all_goals
    rw [skipBlanks_cons rfl]
    simp only [Bracket.opening]
    rw [start]
    rfl

theorem skipInside_blanks (blank : Blanks blanks) :
    skipInside enclosing (blanks ++ text) = skipInside enclosing text := by
  rw [skipInside, skipInside, skipBlanks_append blank]

theorem skipAfter_blanks (blank : Blanks blanks) :
    skipAfter (bracket :: outer) (blanks ++ text) = skipAfter (bracket :: outer) text := by
  rw [skipAfter, skipAfter, skipBlanks_append blank]

theorem skipAfter_closing :
    skipAfter (bracket :: outer) (bracket.closing :: rest) = skipAfter outer rest := by
  rw [skipAfter, skipBlanks_closing]
  exact if_pos rfl

theorem skipAfter_comma :
    skipAfter (bracket :: outer) (',' :: rest) = skipEntries bracket outer rest := by
  rw [skipAfter, skipBlanks_cons rfl]
  cases bracket with
  | list => rfl
  | object =>
    dsimp only [skipEntries]
    rcases passKey rest with fault | after <;> rfl

/-! ## Values -/

/-- The forms of text that are told apart. -/
inductive Shape where
  | value
  /-- What stands between brackets and commas, with the blanks around it: a value in a list, and a
  key with its value in an object. -/
  | entry (bracket : Bracket)
  | entries (bracket : Bracket)

/-- A key and a value as they stand in an object: the key in quotes, and a colon between the two,
with blanks around each. -/
inductive Placed (key value : List Char) : List Char → Prop
  | mk {before gap ahead behind : List Char} (front : Blanks before) (apart : Blanks gap)
    (start : Blanks ahead) (stop : Blanks behind) :
    Placed key value (before ++ '"' :: (key ++ '"' :: (gap ++ ':' :: (ahead ++ (value ++ behind)))))

/-- A text has a form. -/
inductive WellFormed : Shape → List Char → Prop
  | scalar {text : List Char} (isScalar : IsScalar text) : WellFormed .value text
  | empty (bracket : Bracket) {blanks : List Char} (blank : Blanks blanks) :
    WellFormed .value (bracket.opening :: (blanks ++ [bracket.closing]))
  | full {bracket : Bracket} {text : List Char} (entries : WellFormed (.entries bracket) text) :
    WellFormed .value (bracket.opening :: (text ++ [bracket.closing]))
  /-- A value is what stands in a list. -/
  | element {ahead value behind : List Char} (start : Blanks ahead)
    (inner : WellFormed .value value) (stop : Blanks behind) :
    WellFormed (.entry .list) (ahead ++ (value ++ behind))
  /-- In an object it stands after a key. -/
  | member {key value text : List Char} (formed : Formed key) (inner : WellFormed .value value)
    (placed : Placed key value text) : WellFormed (.entry .object) text
  | last {bracket : Bracket} {entry : List Char} (only : WellFormed (.entry bracket) entry) :
    WellFormed (.entries bracket) entry
  | more {bracket : Bracket} {entry later : List Char} (first : WellFormed (.entry bracket) entry)
    (others : WellFormed (.entries bracket) later) :
    WellFormed (.entries bracket) (entry ++ ',' :: later)

/-- Nothing of a form begins with the end of a bracket. -/
theorem WellFormed.leads {shape : Shape} (formed : WellFormed shape text) : Leads text := by
  induction formed with
  | scalar isScalar =>
    have ends : Ends [] := nofun
    obtain ⟨first, tail, rfl, passed⟩ := isScalar.passScalar ends
    rw [List.append_nil] at passed
    exact .of_solid (solid_of_passScalar passed) (ne_of_passScalar passed (by decide) rfl)
      (ne_of_passScalar passed (by decide) rfl)
  | empty bracket _ => exact leads_opening bracket _
  | full _ _ => exact leads_opening _ _
  | element start _ _ ih => exact (ih.append _).of_blanks start
  | member _ _ placed _ =>
    cases placed with
    | mk front _ _ _ => exact (Leads.of_solid rfl (by decide) (by decide)).of_blanks front
  | last _ ih => exact ih
  | more _ _ ih _ => exact ih.append _

/-- Text of a form is passed over, and the brackets around it stay open. -/
def Skips : Shape → List Char → Prop
  | .value, text => ∀ enclosing rest, Ends rest →
      skipInside enclosing (text ++ rest) = skipAfter enclosing rest
  | .entry bracket, text => ∀ outer rest, Ends rest →
      skipEntries bracket outer (text ++ rest) = skipAfter (bracket :: outer) rest
  | .entries bracket, text => ∀ outer rest,
      skipEntries bracket outer (text ++ bracket.closing :: rest) = skipAfter outer rest

theorem ends_closing (bracket : Bracket) (rest : List Char) : Ends (bracket.closing :: rest) := by
  intro c first
  cases first
  cases bracket
  · exact .inr (.inr (.inl rfl))
  · exact .inr (.inr (.inr rfl))

theorem ends_comma (rest : List Char) : Ends (',' :: rest) := by
  intro c first
  cases first
  exact .inr (.inl rfl)

/-- A value may be followed by blanks, and then by what may follow a value. -/
theorem Ends.of_blanks (blank : Blanks blanks) (ends : Ends rest) : Ends (blanks ++ rest) := by
  cases blanks with
  | nil => exact ends
  | cons c blanks =>
    intro d first
    cases first
    exact .inl (blank c List.mem_cons_self)

/-- A key and its colon are passed over. -/
theorem passKey_append {before key gap : List Char} (blank : Blanks before) (formed : Formed key)
    (blank' : Blanks gap) :
    passKey (before ++ '"' :: (key ++ '"' :: (gap ++ ':' :: rest))) = .ok rest := by
  have colon : skipBlanks (gap ++ ':' :: rest) = ':' :: rest := by
    rw [skipBlanks_append blank', skipBlanks_cons rfl]
  rw [passKey, skipBlanks_append blank, skipBlanks_cons rfl]
  simp [formed.passString, colon, bind, Except.bind, pure, Except.pure]

/-- **What is well formed is passed over.** -/
theorem WellFormed.skips {shape : Shape} (formed : WellFormed shape text) : Skips shape text := by
  -- A value in a list and one after a key are passed over alike.
  have padded {ahead value behind rest : List Char} {bracket : Bracket} {outer : List Bracket}
      (start : Blanks ahead) (stop : Blanks behind) (skips : Skips .value value)
      (ends : Ends rest) : skipInside (bracket :: outer) (ahead ++ (value ++ (behind ++ rest))) =
        skipAfter (bracket :: outer) rest := by
    rw [skipInside_blanks start, skips _ _ (ends.of_blanks stop), skipAfter_blanks stop]
  induction formed with
  | scalar isScalar =>
    intro enclosing rest ends
    obtain ⟨first, tail, rfl, passed⟩ := isScalar.passScalar ends
    exact skipInside_scalar passed
  | empty bracket blank =>
    intro enclosing rest _
    rw [List.cons_append, List.append_assoc, List.singleton_append]
    exact skipInside_empty blank
  | full entries ih =>
    intro enclosing rest _
    rw [List.cons_append, List.append_assoc, List.singleton_append,
      skipInside_opening (entries.leads.append _), ih]
  | element start _ stop ih =>
    intro outer rest ends
    rw [skipEntries, List.append_assoc, List.append_assoc]
    exact padded start stop ih ends
  | member formed _ placed ih =>
    intro outer rest ends
    cases placed with
    | mk front apart start stop =>
      rw [skipEntries]
      simp only [List.append_assoc, List.cons_append, passKey_append front formed apart]
      exact padded start stop ih ends
  | last _ ih =>
    intro outer rest
    rw [ih _ _ (ends_closing _ rest), skipAfter_closing]
  | more _ _ ih ih' =>
    intro outer rest
    rw [List.append_assoc, List.cons_append, ih _ _ (ends_comma _), skipAfter_comma, ih']

/-- A value that nobody asked for is passed over, with the blanks before it. -/
theorem WellFormed.skipValue {value : List Char} (formed : WellFormed .value value)
    (blank : Blanks blanks) (ends : Ends rest) :
    skipValue (blanks ++ (value ++ rest)) = .ok rest := by
  rw [Json.skipValue, skipInside_blanks blank, formed.skips [] rest ends, skipAfter]

end Enip.Json
