import Enip.Proofs.JsonValues
import Enip.Settings.Json
import Mathlib.Tactic.Convert

/-!
# Settings survive JSON

An object `Holds` some fields of the settings if these are among its keys, each with the value that
the settings have for it. The keys may come in any order and be spelled in any way, there may be
other keys with any values, and blanks between all of these.

Fields are read one after the other into a draft, which holds those of the settings that have been
met so far (`Draft.of`). Each key adds its field, or nothing if it is that of no field
(`Draft.readMembers_member`), so that by induction on the object all of them are read
(`Draft.readMembers_of`); the others get their defaults (`Settings.keeping`). What settings are
written as is such an object (`holds_json`), and `json_kept` puts it together.
-/

namespace Enip.Settings

open Json

variable (settings : Settings)

/-! ## Texts that hold settings -/

/-- How the value of a field may stand in a text. The address may be spelled in any way; a number is
written with digits alone. -/
def Writes : Field → List Char → Prop
  | .address, value => ∃ text, Spells text settings.address.toList ∧ value = '"' :: (text ++ ['"'])
  | field, value => value = settings.fieldText field

/-- A key and its value: those of a field of the settings, or of none. -/
inductive Member : Option Field → List Char → Prop
  /-- Those of a field. Its key may be spelled in any way. -/
  | own {field : Field} {key value text : List Char} (spells : Spells key field.key)
    (writes : settings.Writes field value) (placed : Placed key value text) :
    Member (some field) text
  /-- A key that is none of a field, and any value that is well formed. -/
  | other {name key value text : List Char} (spells : Spells key name)
    (unknown : ∀ field : Field, field.key ≠ name) (formed : WellFormed .value value)
    (placed : Placed key value text) : Member none text

/-- What stands between the brackets of an object, and the fields that are there. -/
inductive Members : List Field → List Char → Prop
  | last {field? : Option Field} {text : List Char} (member : Member settings field? text) :
    Members field?.toList text
  | more {field? : Option Field} {fields : List Field} {text later : List Char}
    (member : Member settings field? text) (others : Members fields later) :
    Members (field?.toList ++ fields) (text ++ ',' :: later)

/-- An object that holds these fields of the settings, in this order, and perhaps something else. -/
inductive Holds (fields : List Field) : List Char → Prop
  | mk {before members after : List Char} (front : Blanks before)
    (all : Members settings fields members) (back : Blanks after) :
    Holds fields (before ++ '\x7b' :: (members ++ '\x7d' :: after))

/-- The settings with these fields as they are and defaults for the others. The address and the slot
have none, and stay. -/
def keeping (fields : List Field) : Settings where
  address := settings.address
  slot := settings.slot
  port := if .port ∈ fields then settings.port else defaultPort
  timeoutMillis := if .timeout ∈ fields then settings.timeoutMillis else defaultTimeoutMillis
  retries := if .retries ∈ fields then settings.retries else defaultRetries
  retryDelayMillis :=
    if .retryDelay ∈ fields then settings.retryDelayMillis else defaultRetryDelayMillis

variable {settings}

/-! ## Reading values -/

section

variable {blanks rest value : List Char}

theorem readText_append {text s : List Char} (blank : Blanks blanks) (spells : Spells text s) :
    readText (blanks ++ '"' :: (text ++ '"' :: rest)) = .ok (String.ofList s, rest) := by
  rw [readText, skipBlanks_append blank, skipBlanks_cons rfl]
  simp [spells.readString, Except.map]

theorem readNatural_toDigits {bound n : Nat} (blank : Blanks blanks) (small : n < bound)
    (bounded : bound ≤ 2 ^ 64) (ends : Ends rest) :
    readNatural bound (blanks ++ (Nat.toDigits 10 n ++ rest)) = .ok (n, rest) := by
  have read := readNumber_toDigits (Nat.lt_of_lt_of_le small bounded) ends
  obtain ⟨some, all⟩ := isDigits_toDigits n
  obtain ⟨c, digits, written⟩ := List.exists_cons_of_ne_nil some
  rw [written] at read all ⊢
  have digit : c.isDigit = true := all c List.mem_cons_self
  have solid : isBlank c = false := by
    have ne (d : Char) : d.isDigit = false → c ≠ d := ne_of_isDigit digit
    simp [isBlank, ne ' ' rfl, ne '\n' rfl, ne '\t' rfl, ne '\r' rfl]
  rw [readNatural, skipBlanks_append blank, List.cons_append, skipBlanks_cons solid]
  rw [List.cons_append] at read
  simp [digit, read, small]

namespace Draft

/-- These fields of the settings, and no others. -/
def of (settings : Settings) (fields : List Field) : Draft where
  address := if .address ∈ fields then some settings.address else none
  port := if .port ∈ fields then some settings.port else none
  slot := if .slot ∈ fields then some settings.slot else none
  timeout := if .timeout ∈ fields then some settings.timeoutMillis else none
  retries := if .retries ∈ fields then some settings.retries else none
  retryDelay := if .retryDelay ∈ fields then some settings.retryDelayMillis else none

variable {fields : List Field} {field : Field}

/-- The order of the fields is of no account. -/
theorem of_congr {fields' : List Field} (same : ∀ field, field ∈ fields ↔ field ∈ fields') :
    of settings fields = of settings fields' := by
  simp only [of, same]

theorem holds_of : (of settings fields).holds field = true ↔ field ∈ fields := by
  cases field <;> simp [of, holds]

/-- The value of a field is read. -/
theorem read_of (writes : settings.Writes field value) (blank : Blanks blanks) (ends : Ends rest) :
    (of settings fields).read field (blanks ++ (value ++ rest)) =
      .ok (of settings (field :: fields), rest) := by
  have natural {bound n : Nat} (small : n < bound) (bounded : bound ≤ 2 ^ 64) :
      readNatural bound (blanks ++ (Nat.toDigits 10 n ++ rest)) = .ok (n, rest) :=
    readNatural_toDigits blank small bounded ends
  cases field with
  | address =>
    obtain ⟨text, spells, rfl⟩ := writes
    rw [List.cons_append, List.append_assoc, List.singleton_append]
    simp [read, readText_append blank spells, Except.map, of]
  | port =>
    cases writes
    have taken := natural (show _ < 65536 from settings.port.toNat_lt) (by decide)
    simp [read, fieldText, taken, Except.map, of]
  | slot =>
    cases writes
    have taken := natural (show _ < 256 from settings.slot.toNat_lt) (by decide)
    simp [read, fieldText, taken, Except.map, of]
  | timeout =>
    cases writes
    have taken := natural
      (show _ < 18446744073709551616 from settings.timeoutMillis.toNat_lt) (by decide)
    simp [read, fieldText, taken, Except.map, of]
  | retries =>
    cases writes
    have taken := natural (show _ < 4294967296 from settings.retries.toNat_lt) (by decide)
    simp [read, fieldText, taken, Except.map, of]
  | retryDelay =>
    cases writes
    have taken := natural
      (show _ < 18446744073709551616 from settings.retryDelayMillis.toNat_lt) (by decide)
    simp [read, fieldText, taken, Except.map, of]

/-- Once the address and the slot are there, the settings are. -/
theorem settings_of (address : .address ∈ fields) (slot : .slot ∈ fields) :
    (of settings fields).settings = .ok (settings.keeping fields) := by
  have getD {α : Type} (p : Prop) [Decidable p] (a b : α) :
      (if p then some a else none).getD b = if p then a else b := by
    split <;> rfl
  simp only [Draft.settings, of, if_pos address, if_pos slot, getD]
  rfl

end Draft

end

/-! ## Reading objects -/

section

variable {rest : List Char} {fields done : List Field}

theorem ofKey?_key (field : Field) : Field.ofKey? field.key = some field := by
  cases field <;> decide

theorem ofKey?_of_unknown {name : List Char} (unknown : ∀ field : Field, field.key ≠ name) :
    Field.ofKey? name = none := by
  refine List.find?_eq_none.2 fun field _ => ?_
  simpa using unknown field

namespace Draft

theorem passColon_append {blanks : List Char} (blank : Blanks blanks) :
    passColon (blanks ++ ':' :: rest) = .ok rest := by
  rw [passColon, skipBlanks_append blank, skipBlanks_cons rfl]
  rfl

/-- A key is read with its value, if it was not there before. The blanks after it are not. -/
theorem readMember_of {field? : Option Field} {text : List Char}
    (member : Member settings field? text) (absent : ∀ field ∈ field?, field ∉ done)
    (ends : Ends rest) : ∃ blanks, Blanks blanks ∧
      (of settings done).readMember (text ++ rest) =
        .ok (of settings (field?.toList ++ done), blanks ++ rest) := by
  cases member with
  | @own field _ _ _ spells writes placed =>
    cases placed with
    | @mk _ _ _ behind front apart start stop =>
      have new : (of settings done).holds field = false := by
        rw [← Bool.not_eq_true, holds_of]
        exact absent field rfl
      have read : (of settings done).read field _ = _ :=
        read_of writes start (ends.of_blanks stop)
      refine ⟨behind, stop, ?_⟩
      simp only [List.append_assoc, List.cons_append]
      rw [readMember, skipBlanks_append front, skipBlanks_cons rfl]
      simp [spells.readString, ofKey?_key, passColon_append apart, new, read, bind, Except.bind]
  | other spells unknown formed placed =>
    cases placed with
    | @mk _ _ _ behind front apart start stop =>
      refine ⟨behind, stop, ?_⟩
      simp only [List.append_assoc, List.cons_append]
      rw [readMember, skipBlanks_append front, skipBlanks_cons rfl]
      simp [spells.readString, ofKey?_of_unknown unknown, passColon_append apart,
        formed.skipValue start (ends.of_blanks stop), bind, Except.bind, pure, Except.pure]

/-- A key begins with a quote. -/
theorem start_of_member {field? : Option Field} {text : List Char}
    (member : Member settings field? text) :
    ∃ tail, skipBlanks (text ++ rest) = '"' :: tail := by
  have start {key value text : List Char} (placed : Placed key value text) :
      ∃ tail, skipBlanks (text ++ rest) = '"' :: tail := by
    cases placed with
    | mk front _ _ _ =>
      rw [List.append_assoc, skipBlanks_append front]
      exact ⟨_, skipBlanks_cons rfl⟩
  cases member with
  | own _ _ placed => exact start placed
  | other _ _ _ placed => exact start placed

variable {draft longer : Draft}

theorem readMembers_blanks {blanks text : List Char} {first : Bool} (blank : Blanks blanks) :
    readMembers first draft (blanks ++ text) = readMembers first draft text := by
  rw [readMembers, readMembers, skipBlanks_append blank]

theorem readMembers_closing {first : Bool} :
    readMembers first draft ('\x7d' :: rest) = .ok (draft, rest) := by
  rw [readMembers, skipBlanks_cons rfl]
  exact if_pos rfl

theorem readMembers_comma {text : List Char} (read : draft.readMember text = .ok (longer, rest)) :
    readMembers false draft (',' :: text) = readMembers false longer rest := by
  rw [readMembers, skipBlanks_cons rfl]
  simp only [Char.reduceEq, ↓reduceIte, Bool.false_eq_true, not_false_eq_true, ne_eq,
    not_true_eq_false, and_false, ↓dreduceIte]
  rw [read]

theorem readMembers_first {text tail : List Char} (start : skipBlanks text = '"' :: tail)
    (read : draft.readMember text = .ok (longer, rest)) :
    readMembers true draft text = readMembers false longer rest := by
  have again : draft.readMember ('"' :: tail) = .ok (longer, rest) := by
    rw [← read, readMember, readMember, start, skipBlanks_cons rfl]
  rw [readMembers, start]
  simp only [Char.reduceEq, ↓reduceIte, not_true_eq_false, ne_eq, not_false_eq_true, and_true,
    ↓dreduceIte]
  rw [again]

/-- What stands before a key: nothing if it is the first, and a comma otherwise. -/
def lead : Bool → List Char
  | true => []
  | false => [',']

/-- One key is read with its value, and the others are left. -/
theorem readMembers_member {first : Bool} {field? : Option Field} {text : List Char}
    (member : Member settings field? text) (absent : ∀ field ∈ field?, field ∉ done)
    (ends : Ends rest) :
    readMembers first (of settings done) (lead first ++ (text ++ rest)) =
      readMembers false (of settings (field?.toList ++ done)) rest := by
  obtain ⟨blanks, blank, read⟩ := readMember_of member absent ends
  obtain ⟨tail, start⟩ : ∃ tail, skipBlanks (text ++ rest) = '"' :: tail := start_of_member member
  cases first with
  | true =>
    rw [lead, List.nil_append, readMembers_first start read, readMembers_blanks blank]
  | false =>
    rw [lead, List.singleton_append, readMembers_comma read, readMembers_blanks blank]

/-- **All keys of an object are read with their values**, whatever their order is. -/
theorem readMembers_of {first : Bool} {text : List Char} (members : Members settings fields text)
    (once : fields.Nodup) (apart : fields.Disjoint done) :
    readMembers first (of settings done) (lead first ++ (text ++ '\x7d' :: rest)) =
      .ok (of settings (fields ++ done), rest) := by
  induction members generalizing first done with
  | last member =>
    have ends : Ends ('\x7d' :: rest) := ends_closing .object rest
    rw [readMembers_member member (fun field own => apart (Option.mem_toList.2 own)) ends,
      readMembers_closing]
  | @more field? fields text later member _ ih =>
    obtain ⟨-, once, distinct⟩ := List.nodup_append.1 once
    obtain ⟨apart, apart'⟩ := List.disjoint_append_left.1 apart
    have disjoint : fields.Disjoint (field?.toList ++ done) := by
      refine List.disjoint_append_right.2 ⟨?_, apart'⟩
      exact fun field other own => distinct field own field other rfl
    rw [List.append_assoc, List.cons_append,
      readMembers_member member (fun field own => apart (Option.mem_toList.2 own)) (ends_comma _)]
    -- A field that is read goes before those that were read earlier.
    have same : of settings (fields ++ (field?.toList ++ done)) =
        of settings (field?.toList ++ fields ++ done) := by
      refine of_congr fun field => ?_
      simp only [List.mem_append]
      tauto
    rw [← same]
    exact ih once disjoint

end Draft

end

/-! ## Settings -/

/-- An object that holds the address and the slot is read. -/
theorem ofJson_of_holds {fields : List Field} {text : String}
    (holds : settings.Holds fields text.toList) (once : fields.Nodup)
    (address : .address ∈ fields) (slot : .slot ∈ fields) :
    ofJson text = .ok (settings.keeping fields) := by
  generalize chars : text.toList = list at holds
  cases holds with
  | @mk before members after front all back =>
    have read : Draft.readMembers true {} (members ++ '\x7d' :: after) =
        .ok (Draft.of settings (fields ++ []), after) :=
      Draft.readMembers_of all once (List.disjoint_nil_right _)
    rw [List.append_nil] at read
    have blank : skipBlanks after = [] := by
      rw [← List.append_nil after, skipBlanks_append back, skipBlanks_nil]
    rw [ofJson, chars, skipBlanks_append front, skipBlanks_cons rfl]
    simp only [bind, Except.bind, read, Draft.settings_of address slot, blank]
    rfl

/-! ## Writing -/

theorem writes_fieldText (settings : Settings) (field : Field) :
    settings.Writes field (settings.fieldText field) := by
  cases field with
  | address => exact ⟨_, spells_escapes _, rfl⟩
  | port | slot | timeout | retries | retryDelay => rfl

/-- A field is written with its key, and no blanks. -/
theorem member_memberText (settings : Settings) (field : Field) :
    settings.Member (some field) (settings.memberText field) := by
  refine .own (spells_escapes _) (settings.writes_fieldText field) ?_
  have placed : Placed (field.key.flatMap escape) (settings.fieldText field) _ :=
    .mk blank_nil blank_nil blank_nil blank_nil
  simpa [memberText, quoted] using placed

theorem members_intercalate (settings : Settings) {fields : List Field} (some : fields ≠ []) :
    settings.Members fields ([','].intercalate (fields.map settings.memberText)) := by
  induction fields with
  | nil => exact absurd rfl some
  | cons field fields ih =>
    cases fields with
    | nil =>
      have only : settings.Members (Option.some field).toList _ :=
        .last (settings.member_memberText field)
      simpa using only
    | cons next fields =>
      have more : settings.Members ((Option.some field).toList ++ next :: fields) _ :=
        .more (settings.member_memberText field) (ih nofun)
      simpa using more

/-- Settings are written as an object that holds all of their fields. -/
theorem holds_json (settings : Settings) : settings.Holds Field.all settings.json.toList := by
  have holds : settings.Holds Field.all _ :=
    .mk blank_nil (settings.members_intercalate (nofun : Field.all ≠ [])) blank_nil
  simpa [json] using holds

theorem keeping_all (settings : Settings) : settings.keeping Field.all = settings := rfl

/-- **Settings survive JSON.** They are read back from the text in which they are written. They are
also read from any object that holds the address, the slot and any of the other fields, in any
order, however its strings are spelled, wherever there are blanks, and whatever else it holds that
is well formed. Just the fields that are not there have their defaults then. -/
theorem json_kept (settings : Settings) :
    ofJson settings.json = .ok settings ∧
    ∀ (fields : List Field) (text : String), settings.Holds fields text.toList → fields.Nodup →
      .address ∈ fields → .slot ∈ fields → ofJson text = .ok (settings.keeping fields) := by
  refine ⟨?_, fun fields text holds once address slot => ofJson_of_holds holds once address slot⟩
  have read := ofJson_of_holds settings.holds_json (by decide) (by decide) (by decide)
  rwa [settings.keeping_all] at read

/-- Three fields in another order than they are written, one key and the address with escapes, and a
list that is passed over. The port, which is not there, has its default. -/
theorem json_kept_shuffled :
    let settings : Settings := { device "a\"b" 3 with port := 1, retries := 7 }
    let text := "\x7b\"slot\": 3,\"note\":[-2.5e3,\x7b\"k\":null\x7d ]," ++
      "\"\\u0061ddress\":\"a\\\"b\",\"retries\":7 \x7d"
    settings.Holds [.slot, .address, .retries] text.toList ∧
      ofJson text = .ok { device "a\"b" 3 with retries := 7 } := by
  intro settings text
  have space : Blanks [' '] := by decide
  have number : IsScalar (['-'] ++ (['2'] ++ (('.' :: ['5']) ++ ('e' :: ([] ++ ['3']))))) :=
    .number (.inr rfl) (by decide) (.some (by decide)) (.some (.inl rfl) (.inl rfl) (by decide))
  have inner : WellFormed .value (Bracket.object.opening :: ([] ++ '"' :: (['k'] ++ '"' ::
      ([] ++ ':' :: ([] ++ ("null".toList ++ [])))) ++ [Bracket.object.closing])) :=
    .full (.last (.member (.plain (by decide) (by decide) (by decide) .nil)
      (.scalar (.word (by decide))) (.mk blank_nil blank_nil blank_nil blank_nil)))
  have list := WellFormed.full (.more (.element blank_nil (.scalar number) blank_nil)
    (.last (.element blank_nil inner space)))
  have code : IsUnit ['0', '0', '6', '1'] 'a'.toNat := by decide
  have key : Spells ('\\' :: 'u' :: (['0', '0', '6', '1'] ++ "ddress".toList)) Field.address.key :=
    .unit code (spells_escapes "ddress".toList)
  have slot : settings.Member (some .slot) _ :=
    .own (spells_escapes "slot".toList) (settings.writes_fieldText .slot)
      (.mk blank_nil blank_nil space blank_nil)
  have note : settings.Member none _ :=
    .other (spells_escapes "note".toList) (by rintro ⟨⟩ <;> decide) list
      (.mk blank_nil blank_nil blank_nil blank_nil)
  have address : settings.Member (some .address) _ :=
    .own key (settings.writes_fieldText .address) (.mk blank_nil blank_nil blank_nil blank_nil)
  have retries : settings.Member (some .retries) _ :=
    .own (spells_escapes "retries".toList) (settings.writes_fieldText .retries)
      (.mk blank_nil blank_nil blank_nil space)
  have holds : settings.Holds [.slot, .address, .retries] text.toList := by
    have held : settings.Holds [.slot, .address, .retries] _ :=
      .mk blank_nil (.more slot (.more note (.more address (.last retries)))) blank_nil
    convert held using 1
    decide
  exact ⟨holds, (settings.json_kept).2 _ text holds (by decide) (by decide) (by decide)⟩

end Enip.Settings
