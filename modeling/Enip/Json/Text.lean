import Enip.Text.Hex
import Enip.Text.Numeral

/-!
# Strings in JSON text

The parts of JSON that have no structure: blanks, words, and strings. A `Fault` says in which way
a text is not what was asked for.

A string is written with as few escapes as there can be (`quoted`): only quotes, backslashes and
control characters have one. It is read with all that there are (`readString`); a pair of escapes
may stand for one character, but neither half of a pair for itself. A string that nobody asked for
is passed over with a look at its form only (`passString`).
-/

namespace Enip.Json

/-- Why a text is not the JSON that was asked for. -/
inductive Fault where
  /-- The text ends too early. -/
  | early
  | malformed
  /-- The text is JSON, or begins as JSON does, but does not fit. -/
  | unfit
deriving DecidableEq

/-! ## Blanks and words -/

/-- Whether a character may stand between the parts of a text. -/
def isBlank (c : Char) : Bool := c = ' ' ∨ c = '\n' ∨ c = '\t' ∨ c = '\r'

/-- The text after the blanks at its front. -/
def skipBlanks (text : List Char) : List Char := text.dropWhile isBlank

theorem length_skipBlanks_le (text : List Char) : (skipBlanks text).length ≤ text.length :=
  (List.dropWhile_suffix isBlank).length_le

theorem length_lt_of_skipBlanks {text rest : List Char} {c : Char}
    (h : skipBlanks text = c :: rest) : rest.length < text.length := by
  have := length_skipBlanks_le text
  rw [h, List.length_cons] at this
  omega

/-- The text after a word that has to be there. -/
def passWord : List Char → List Char → Except Fault (List Char)
  | [], text => .ok text
  | _ :: _, [] => .error .early
  | c :: word, d :: text => if c = d then passWord word text else .error .malformed

theorem length_le_of_passWord {word text rest : List Char} (h : passWord word text = .ok rest) :
    rest.length ≤ text.length := by
  induction word generalizing text with
  | nil => simp only [passWord, Except.ok.injEq] at h; simp [h]
  | cons c word ih =>
    cases text with
    | nil => simp [passWord] at h
    | cons d text =>
      simp only [passWord] at h
      split at h
      · have := ih h
        simp only [List.length_cons]
        omega
      · simp at h

/-! ## Writing strings -/

/-- The two digits of the code of a control character, in lower case. -/
def controlCode (c : Char) : List Char :=
  [Nat.digitChar (c.toNat / 16), Nat.digitChar (c.toNat % 16)]

/-- A character of a string as it is written. -/
def escape (c : Char) : List Char :=
  if c = '"' then ['\\', '"']
  else if c = '\\' then ['\\', '\\']
  else if c = '\n' then ['\\', 'n']
  else if c = '\r' then ['\\', 'r']
  else if c = '\t' then ['\\', 't']
  else if c = '\x08' then ['\\', 'b']
  else if c = '\x0c' then ['\\', 'f']
  else if c.toNat < 0x20 then ['\\', 'u', '0', '0'] ++ controlCode c
  else [c]

/-- A string as it is written. -/
def quoted (s : List Char) : List Char := '"' :: s.flatMap escape ++ ['"']

/-! ## Reading strings -/

/-- The number of bytes that a text takes in storage. -/
def bytesOf (text : List Char) : Nat := text.foldl (fun n c => n + c.utf8Size) 0

/-- Reads the four digits of an escape. -/
def readUnit : List Char → Except Fault (Nat × List Char)
  | a :: b :: c :: d :: rest =>
    if [a, b, c, d].all (Numeral.isDigit 16) then .ok (Numeral.value 16 [a, b, c, d], rest)
    else .error .malformed
  | short => .error (if 4 ≤ bytesOf short then .malformed else .early)

/-- Whether a unit is the first half of a pair. -/
def isHigh (unit : Nat) : Bool := 0xD800 ≤ unit ∧ unit < 0xDC00

/-- Whether a unit is the second half of a pair. -/
def isLow (unit : Nat) : Bool := 0xDC00 ≤ unit ∧ unit < 0xE000

/-- Reads the second half of a pair. -/
def readLow : List Char → Except Fault (Nat × List Char)
  | [] => .error .early
  | ['\\'] => .error .early
  | '\\' :: 'u' :: rest => do
    let (unit, rest) ← readUnit rest
    if isLow unit then pure (unit, rest) else throw .malformed
  | _ => .error .malformed

/-- The character that a letter stands for after a backslash. -/
def named? (c : Char) : Option Char :=
  if c = '"' ∨ c = '\\' ∨ c = '/' then some c
  else if c = 'b' then some '\x08'
  else if c = 'f' then some '\x0c'
  else if c = 'n' then some '\n'
  else if c = 'r' then some '\r'
  else if c = 't' then some '\t'
  else none

/-- Reads the character that an escape stands for, after its backslash. -/
def readEscape : List Char → Except Fault (Char × List Char)
  | [] => .error .early
  | 'u' :: rest => do
    let (unit, rest) ← readUnit rest
    if isLow unit then throw .malformed
    else if isHigh unit then
      let (low, rest) ← readLow rest
      pure (Char.ofNat (0x10000 + (unit - 0xD800) * 0x400 + (low - 0xDC00)), rest)
    else pure (Char.ofNat unit, rest)
  | c :: rest =>
    match named? c with
    | some d => .ok (d, rest)
    | none => .error .malformed

theorem length_lt_of_readUnit {text rest : List Char} {unit : Nat}
    (h : readUnit text = .ok (unit, rest)) : rest.length < text.length := by
  unfold readUnit at h
  split at h
  · split at h
    · simp only [Except.ok.injEq, Prod.mk.injEq] at h
      simp only [← h.2, List.length_cons]
      omega
    · simp at h
  · simp at h

theorem length_lt_of_readLow {text rest : List Char} {unit : Nat}
    (h : readLow text = .ok (unit, rest)) : rest.length < text.length := by
  unfold readLow at h
  split at h
  · simp at h
  · simp at h
  · next text =>
    cases read : readUnit text with
    | error fault => simp [read, bind, Except.bind] at h
    | ok found =>
      obtain ⟨low, after⟩ := found
      have := length_lt_of_readUnit read
      simp only [read, bind, Except.bind] at h
      split at h
      · simp only [pure, Except.pure, Except.ok.injEq, Prod.mk.injEq] at h
        simp only [← h.2, List.length_cons]
        omega
      · simp [throw, throwThe, MonadExceptOf.throw] at h
  · simp at h

theorem length_lt_of_readEscape {text rest : List Char} {c : Char}
    (h : readEscape text = .ok (c, rest)) : rest.length < text.length := by
  unfold readEscape at h
  split at h
  · simp at h
  · next text =>
    cases read : readUnit text with
    | error fault => simp [read, bind, Except.bind] at h
    | ok found =>
      obtain ⟨unit, after⟩ := found
      have first := length_lt_of_readUnit read
      simp only [read, bind, Except.bind] at h
      split at h
      · simp [throw, throwThe, MonadExceptOf.throw] at h
      · split at h
        · cases second : readLow after with
          | error fault => simp [second] at h
          | ok found =>
            obtain ⟨low, last⟩ := found
            have := length_lt_of_readLow second
            simp only [second, pure, Except.pure, Except.ok.injEq, Prod.mk.injEq] at h
            simp only [← h.2, List.length_cons]
            omega
        · simp only [pure, Except.pure, Except.ok.injEq, Prod.mk.injEq] at h
          simp only [← h.2, List.length_cons]
          omega
  · split at h
    · simp only [Except.ok.injEq, Prod.mk.injEq] at h
      simp [← h.2]
    · simp at h

/-- Reads a string to its end, after the opening quote and the characters `before`, which are in
reverse. -/
def readString (before : List Char) (text : List Char) : Except Fault (List Char × List Char) :=
  match text with
  | [] => .error .early
  | '"' :: rest => .ok (before.reverse, rest)
  | '\\' :: rest =>
    match _read : readEscape rest with
    | .ok (c, rest) => readString (c :: before) rest
    | .error fault => .error fault
  | c :: rest => if c.toNat < 0x20 then .error .malformed else readString (c :: before) rest
termination_by text.length
decreasing_by
  · have := length_lt_of_readEscape _read
    simp only [List.length_cons]
    omega
  · simp

theorem length_le_of_readString {before text rest s : List Char}
    (h : readString before text = .ok (s, rest)) : rest.length ≤ text.length := by
  fun_induction readString before text with
  | case1 => simp at h
  | case2 before text =>
    simp only [Except.ok.injEq, Prod.mk.injEq] at h
    simp [h.2]
  | case3 before text c after read ih =>
    have := length_lt_of_readEscape read
    have := ih h
    simp only [List.length_cons]
    omega
  | case4 => simp at h
  | case5 => simp at h
  | case6 before c text _ _ _ ih =>
    have := ih h
    simp only [List.length_cons]
    omega

/-! ## Passing over strings -/

/-- The text after an escape, after its backslash. -/
def passEscape : List Char → Except Fault (List Char)
  | [] => .error .early
  | 'u' :: rest => (readUnit rest).map Prod.snd
  | c :: rest => if (named? c).isSome then .ok rest else .error .malformed

theorem length_lt_of_passEscape {text rest : List Char} (h : passEscape text = .ok rest) :
    rest.length < text.length := by
  unfold passEscape at h
  split at h
  · simp at h
  · next text =>
    cases read : readUnit text with
    | error fault => simp [read, Except.map] at h
    | ok found =>
      have := length_lt_of_readUnit read
      simp only [read, Except.map, Except.ok.injEq] at h
      simp only [← h, List.length_cons]
      omega
  · split at h
    · simp only [Except.ok.injEq] at h
      simp [h]
    · simp at h

/-- The text after a string, after its opening quote. -/
def passString (text : List Char) : Except Fault (List Char) :=
  match text with
  | [] => .error .early
  | '"' :: rest => .ok rest
  | '\\' :: rest =>
    match _passed : passEscape rest with
    | .ok rest => passString rest
    | .error fault => .error fault
  | c :: rest => if c.toNat < 0x20 then .error .malformed else passString rest
termination_by text.length
decreasing_by
  · have := length_lt_of_passEscape _passed
    simp only [List.length_cons]
    omega
  · simp

end Enip.Json
