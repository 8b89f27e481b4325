import Enip.Address.V4

/-!
# Addresses of version six

Eight groups of sixteen bits, written in hexadecimal with colons between them. A run of zero
groups may be left out, once: `2001:db8::1`. The last two groups may be written as an address of
version four: `64:ff9b::192.0.2.33`.

Addresses are written in the shortest such form: the longest run of zero groups is left out, the
first of several, if it has at least two groups. Only an address of version four that is mapped to
version six is written as such: `::ffff:192.0.2.33`.
-/

namespace Enip.Address

/-- An address of version six. -/
structure V6 where
  groups : List UInt16
  length_groups : groups.length = 8
deriving DecidableEq

namespace V6

/-! ## Reading -/

/-- Reads one group. -/
def readGroup (text : List Char) : Option (UInt16 × List Char) := do
  let (digits, rest) ← readDigits 16 4 text
  pure (.ofNat (Numeral.value 16 digits), rest)

/-- The two groups of an address of version four. -/
def ofV4 (address : V4) : List UInt16 :=
  [.ofNat (address.a.toNat * 256 + address.b.toNat),
    .ofNat (address.c.toNat * 256 + address.d.toNat)]

/-- Groups that were read, whether they end in an address of version four, and the rest. -/
structure Groups where
  groups : List UInt16
  /-- Whether the last two were written as an address of version four. -/
  endsInV4 : Bool
  rest : List Char

/-- Reads what a separator goes before, if it is not the first. -/
def afterSeparator {α : Type} (first : Bool) (read : List Char → Option α) (text : List Char) :
    Option α :=
  if first then read text else (readChar ':' text).bind read

/-- Reads at most `room` groups with separators between them, and before the first of them unless
it stands at the beginning. An address of version four takes the place of two groups and ends
them. -/
def readGroups (first : Bool) : Nat → List Char → Groups
  | 0, text => ⟨[], false, text⟩
  | room + 1, text =>
    match if room = 0 then none else afterSeparator first V4.read text with
    | some (address, rest) => ⟨ofV4 address, true, rest⟩
    | none =>
      match afterSeparator first readGroup text with
      | some (group, rest) =>
        let more := readGroups false room rest
        ⟨group :: more.groups, more.endsInV4, more.rest⟩
      | none => ⟨[], false, text⟩

/-- An address with these groups at its front and those at its end, and zeros between. -/
def ofEnds? (head tail : List UInt16) : Option V6 :=
  let groups := head ++ List.replicate (8 - head.length - tail.length) 0 ++ tail
  if length_groups : groups.length = 8 then some ⟨groups, length_groups⟩ else none

/-- Reads an address from the front of a text. Groups that are left out are at least one. -/
def read (text : List Char) : Option (V6 × List Char) := do
  let head := readGroups true 8 text
  if head.groups.length = 8 then
    pure (← ofEnds? head.groups [], head.rest)
  else if head.endsInV4 then none
  else
    let rest ← readChar ':' (← readChar ':' head.rest)
    let tail := readGroups true (7 - head.groups.length) rest
    pure (← ofEnds? head.groups tail.groups, tail.rest)

/-! ## Writing -/

/-- Groups as they are written, with a colon between one and the next. -/
def groupsText (groups : List UInt16) : List Char :=
  [':'].intercalate (groups.map fun group => Nat.toDigits 16 group.toNat)

/-- How many zero groups a list begins with. -/
def zeros (groups : List UInt16) : Nat := (groups.takeWhile fun group => group = 0).length

/-- Where the longest run of zero groups begins, counted from `start`, and its length. -/
def longestRun (start : Nat) : List UInt16 → Nat × Nat
  | [] => (start, 0)
  | group :: groups =>
    let here := zeros (group :: groups)
    let later := longestRun (start + 1) groups
    if later.2 ≤ here then (start, here) else later

/-- An address as it is written. -/
def text (address : V6) : String :=
  match address.groups with
  | [0, 0, 0, 0, 0, 0xFFFF, high, low] =>
    "::ffff:" ++ V4.text ⟨.ofNat (high.toNat / 256), .ofNat high.toNat,
      .ofNat (low.toNat / 256), .ofNat low.toNat⟩
  | groups =>
    let (start, length) := longestRun 0 groups
    String.ofList <|
      if 1 < length then
        groupsText (groups.take start) ++ [':', ':'] ++ groupsText (groups.drop (start + length))
      else groupsText groups

end V6

end Enip.Address
