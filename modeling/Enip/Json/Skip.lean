import Enip.Json.Number

/-!
# Passing over JSON values

`skipValue` gives the text after a value that nobody asked for. The value may be nested to any
depth: the brackets that are open are kept in a list, innermost first. Numbers are only looked at
for their form, and one that the text cuts short counts as malformed.
-/

namespace Enip.Json

/-- What a bracket encloses. -/
inductive Bracket where
  | list
  | object
deriving DecidableEq

/-- The character that closes a bracket. -/
def Bracket.closing : Bracket → Char
  | list => ']'
  | object => '\x7d'

/-- The text after a number, after its minus sign if it has one. -/
def passNumber (text : List Char) : Except Fault (List Char) :=
  match readNumeral false text with
  | .ok (_, rest) => .ok rest
  | .error _ => .error .malformed

/-- The text after a value without brackets, of which the first character is given. -/
def passScalar (first : Char) (rest : List Char) : Except Fault (List Char) :=
  if first = '"' then passString rest
  else if first = 'n' then passWord ['u', 'l', 'l'] rest
  else if first = 't' then passWord ['r', 'u', 'e'] rest
  else if first = 'f' then passWord ['a', 'l', 's', 'e'] rest
  else if first = '-' then passNumber rest
  else if first.isDigit then passNumber (first :: rest)
  else .error .malformed

/-- The text after a key and its colon. -/
def passKey (text : List Char) : Except Fault (List Char) :=
  match skipBlanks text with
  | [] => .error .early
  | '"' :: rest => do
    match skipBlanks (← passString rest) with
    | [] => throw .early
    | ':' :: rest => pure rest
    | _ => throw .malformed
  | _ => .error .malformed

theorem length_le_of_passString {text rest : List Char} (h : passString text = .ok rest) :
    rest.length ≤ text.length := by
  fun_induction passString text with
  | case1 => simp at h
  | case2 text =>
    simp only [Except.ok.injEq] at h
    simp [h]
  | case3 text after passed ih =>
    have := length_lt_of_passEscape passed
    have := ih h
    simp only [List.length_cons]
    omega
  | case4 => simp at h
  | case5 => simp at h
  | case6 c text _ _ _ ih =>
    have := ih h
    simp only [List.length_cons]
    omega

theorem length_lt_of_passNumber {text rest : List Char} (h : passNumber text = .ok rest) :
    rest.length < text.length := by
  unfold passNumber at h
  split at h
  · next read =>
    simp only [Except.ok.injEq] at h
    exact h ▸ length_lt_of_readNumeral read
  · simp at h

theorem length_le_of_passScalar {first : Char} {text rest : List Char}
    (h : passScalar first text = .ok rest) : rest.length ≤ text.length := by
  unfold passScalar at h
  split at h
  · exact length_le_of_passString h
  split at h
  · exact length_le_of_passWord h
  split at h
  · exact length_le_of_passWord h
  split at h
  · exact length_le_of_passWord h
  split at h
  · exact Nat.le_of_lt (length_lt_of_passNumber h)
  split at h
  · have := length_lt_of_passNumber h
    simp only [List.length_cons] at this
    omega
  · simp at h

theorem length_lt_of_passKey {text rest : List Char} (h : passKey text = .ok rest) :
    rest.length < text.length := by
  have blanks := length_skipBlanks_le text
  unfold passKey at h
  split at h
  · simp at h
  · next quoted starts =>
    rw [starts] at blanks
    cases passed : passString quoted with
    | error fault => simp [passed, bind, Except.bind] at h
    | ok after =>
      have := length_le_of_passString passed
      have := length_skipBlanks_le after
      simp only [passed, bind, Except.bind] at h
      split at h
      · simp [throw, throwThe, MonadExceptOf.throw] at h
      · next colon =>
        simp only [pure, Except.pure, Except.ok.injEq] at h
        rw [← h]
        have := congrArg List.length colon
        simp only [List.length_cons] at this blanks
        omega
      · simp [throw, throwThe, MonadExceptOf.throw] at h
  · simp at h

mutual

/-- The text after a value that stands inside the given brackets, and after all that they
enclose. -/
def skipInside (enclosing : List Bracket) (text : List Char) : Except Fault (List Char) :=
  match _start : skipBlanks text with
  | [] => .error .early
  | '[' :: rest =>
    match _next : skipBlanks rest with
    | [] => .error .early
    | ']' :: rest => skipAfter enclosing rest
    | _ => skipInside (.list :: enclosing) rest
  | '\x7b' :: rest =>
    match _next : skipBlanks rest with
    | [] => .error .early
    | '\x7d' :: rest => skipAfter enclosing rest
    | _ =>
      match _passed : passKey rest with
      | .error fault => .error fault
      | .ok rest => skipInside (.object :: enclosing) rest
  | first :: rest =>
    match _passed : passScalar first rest with
    | .error fault => .error fault
    | .ok rest => skipAfter enclosing rest
termination_by text.length
decreasing_by
  · have := length_lt_of_skipBlanks _start
    have := length_lt_of_skipBlanks _next
    omega
  · exact length_lt_of_skipBlanks _start
  · have := length_lt_of_skipBlanks _start
    have := length_lt_of_skipBlanks _next
    omega
  · have := length_lt_of_skipBlanks _start
    have := length_lt_of_passKey _passed
    omega
  · have := length_lt_of_skipBlanks _start
    have := length_le_of_passScalar _passed
    omega

/-- The text after all that the given brackets still enclose, after a value inside them. -/
def skipAfter (enclosing : List Bracket) (text : List Char) : Except Fault (List Char) :=
  match enclosing with
  | [] => .ok text
  | bracket :: outer =>
    match _start : skipBlanks text with
    | [] => .error .early
    | c :: rest =>
      if c = bracket.closing then skipAfter outer rest
      else if c ≠ ',' then .error .malformed
      else match bracket with
        | .list => skipInside enclosing rest
        | .object =>
          match _passed : passKey rest with
          | .error fault => .error fault
          | .ok rest => skipInside enclosing rest
termination_by text.length
decreasing_by
  · exact length_lt_of_skipBlanks _start
  · exact length_lt_of_skipBlanks _start
  · have := length_lt_of_skipBlanks _start
    have := length_lt_of_passKey _passed
    omega

end

theorem length_le_of_skip (size : Nat) : ∀ text : List Char, text.length ≤ size →
    ∀ (enclosing : List Bracket) (rest : List Char),
      (skipInside enclosing text = .ok rest → rest.length ≤ text.length) ∧
      (skipAfter enclosing text = .ok rest → rest.length ≤ text.length) := by
  induction size with
  | zero =>
    intro text small enclosing rest
    obtain rfl : text = [] := List.eq_nil_of_length_eq_zero (by omega)
    constructor
    · intro h
      simp [skipInside, skipBlanks] at h
    · intro h
      cases enclosing <;> simp [skipAfter, skipBlanks] at h
      simp [h]
  | succ size ih =>
    intro text small enclosing rest
    constructor
    · intro h
      rw [skipInside] at h
      split at h
      · simp at h
      · next start =>
        have := length_lt_of_skipBlanks start
        split at h
        · simp at h
        · next next =>
          have := length_lt_of_skipBlanks next
          have := (ih _ (by omega) _ _).2 h
          omega
        · have := (ih _ (by omega) _ _).1 h
          omega
      · next start =>
        have := length_lt_of_skipBlanks start
        split at h
        · simp at h
        · next next =>
          have := length_lt_of_skipBlanks next
          have := (ih _ (by omega) _ _).2 h
          omega
        · split at h
          · simp at h
          · next passed =>
            have := length_lt_of_passKey passed
            have := (ih _ (by omega) _ _).1 h
            omega
      · next start =>
        have := length_lt_of_skipBlanks start
        split at h
        · simp at h
        · next passed =>
          have := length_le_of_passScalar passed
          have := (ih _ (by omega) _ _).2 h
          omega
    · intro h
      rw [skipAfter.eq_def] at h
      split at h
      · simp only [Except.ok.injEq] at h
        simp [h]
      · split at h
        · simp at h
        · next start =>
          have := length_lt_of_skipBlanks start
          split at h
          · have := (ih _ (by omega) _ _).2 h
            omega
          · split at h
            · simp at h
            · split at h
              · have := (ih _ (by omega) _ _).1 h
                omega
              · split at h
                · simp at h
                · next passed =>
                  have := length_lt_of_passKey passed
                  have := (ih _ (by omega) _ _).1 h
                  omega

/-- The text after one value. -/
def skipValue (text : List Char) : Except Fault (List Char) := skipInside [] text

theorem length_le_of_skipValue {text rest : List Char} (h : skipValue text = .ok rest) :
    rest.length ≤ text.length :=
  (length_le_of_skip text.length text (Nat.le_refl _) [] rest).1 h

end Enip.Json
