import ConnectionUri.Json.Read
import ConnectionUri.Json.Write
import ConnectionUri.ParameterMap

/-!
# What is written is read

A text between quotes is read back as it was, whatever characters it holds, and so is a value that is
made of texts and mappings: `Json.read_indented`.
-/

set_option autoImplicit false

/-!
## Hexadecimal digits
-/

namespace ConnectionUri.Text

theorem hexPadded_succ (width value : Nat) :
    hexPadded (width + 2) value =
      hexPadded (width + 1) (value / 16) ++ [Nat.digitChar (value % 16)] := by
  unfold hexPadded padLeft ofNat
  by_cases small : value < 16
  · have quotient : value / 16 = 0 := Nat.div_eq_of_lt small
    rw [quotient, Nat.toDigits_of_lt_base small, Nat.toDigits_of_lt_base (by decide : 0 < 16),
      Nat.mod_eq_of_lt small]
    simp [List.replicate_succ']
  · rw [Nat.toDigits_of_base_le (by decide) (Nat.le_of_not_lt small)]
    simp

theorem hexPadded_one {value : Nat} (small : value < 16) :
    hexPadded 1 value = [Nat.digitChar value] := by
  simp [hexPadded, padLeft, ofNat, Nat.toDigits_of_lt_base small]

theorem hexPadded_four {unit : Nat} (small : unit < 0x10000) :
    hexPadded 4 unit =
      [Nat.digitChar (unit / 16 / 16 / 16), Nat.digitChar (unit / 16 / 16 % 16),
        Nat.digitChar (unit / 16 % 16), Nat.digitChar (unit % 16)] := by
  have first : unit / 16 / 16 / 16 < 16 := by omega
  simp [hexPadded_succ, hexPadded_one first]

theorem hexValue?_digitChar {digit : Nat} (small : digit < 16) :
    hexValue? (Nat.digitChar digit) = some digit := by
  have digits : ∀ digit < 16, hexValue? (Nat.digitChar digit) = some digit := by decide
  exact digits digit small

end ConnectionUri.Text

/-!
## Texts between quotes
-/

namespace ConnectionUri.Json

theorem readHex4?_hexPadded {unit : Nat} (small : unit < 0x10000) :
    ∃ a b c d, Text.hexPadded 4 unit = [a, b, c, d] ∧ readHex4? [a, b, c, d] = some (unit, []) := by
  refine ⟨_, _, _, _, Text.hexPadded_four small, ?_⟩
  have first : unit / 16 / 16 / 16 < 16 := by omega
  have digit (value : Nat) : value % 16 < 16 := Nat.mod_lt _ (by decide)
  simp only [readHex4?, Text.hexValue?_digitChar first, Text.hexValue?_digitChar (digit _),
    Option.some.injEq, Prod.mk.injEq, and_true]
  omega

/-- A character and what is read of the text that follows it. -/
def prepend (char : Char) (read : Option (Text × Text)) : Option (Text × Text) :=
  read.map fun (text, after) => (char :: text, after)

theorem readString?_escaped {letter char : Char} (apart : letter ≠ 'u')
    (escaped : escapedChar? letter = some char) (rest : Text) :
    readString? ('\\' :: letter :: rest) = prepend char (readString? rest) := by
  simp [readString?, apart, escaped, prepend]

theorem readString?_plain {char : Char} (noQuote : char ≠ '\x22') (noEscape : char ≠ '\\')
    (printable : 0x20 ≤ char.toNat) (rest : Text) :
    readString? (char :: rest) = prepend char (readString? rest) := by
  have visible : ¬ char.toNat < 0x20 := Nat.not_lt.mpr printable
  simp [readString?, noEscape, visible, prepend]

theorem readString?_unitEscape {unit : Nat} (small : unit < 0x10000)
    (apart : unit < 0xD800 ∨ 0xDFFF < unit) (rest : Text) :
    readString? (unitEscape unit ++ rest) = prepend (Char.ofNat unit) (readString? rest) := by
  obtain ⟨a, b, c, d, written, read⟩ := readHex4?_hexPadded small
  rw [unitEscape, written, readString?.eq_def]
  simp [read, apart, prepend]

theorem readString?_pair {high low : Nat} (ofHigh : 0xD800 ≤ high ∧ high < 0xDC00)
    (ofLow : 0xDC00 ≤ low ∧ low ≤ 0xDFFF) (rest : Text) :
    readString? (unitEscape high ++ unitEscape low ++ rest) =
      prepend (pairChar high low) (readString? rest) := by
  have smallHigh : high < 0x10000 := by omega
  have smallLow : low < 0x10000 := by omega
  obtain ⟨a, b, c, d, writtenHigh, readHigh⟩ := readHex4?_hexPadded smallHigh
  obtain ⟨e, f, g, h, writtenLow, readLow⟩ := readHex4?_hexPadded smallLow
  have surrogate : ¬ (high < 0xD800 ∨ 0xDFFF < high) := by omega
  rw [unitEscape, unitEscape, writtenHigh, writtenLow, readString?.eq_def]
  simp [readHigh, readLow, surrogate, ofHigh, ofLow, prepend]

theorem pairChar_halves {char : Char} (wide : 0x10000 ≤ char.toNat) :
    pairChar (0xD800 + (char.toNat - 0x10000) / 0x400) (0xDC00 + (char.toNat - 0x10000) % 0x400) =
      char := by
  have whole : 0x10000 + (0xD800 + (char.toNat - 0x10000) / 0x400 - 0xD800) * 0x400 +
      (0xDC00 + (char.toNat - 0x10000) % 0x400 - 0xDC00) = char.toNat := by omega
  rw [pairChar, whole, Char.ofNat_toNat]

/-- The characters that have an escape of their own, each with its letter. -/
def escapes : List (Char × Char) :=
  [('\x22', '\x22'), ('\\', '\\'), ('\n', 'n'), ('\r', 'r'), ('\t', 't'), ('\x08', 'b'),
    ('\x0c', 'f')]

theorem stringChar_of_mem_escapes : ∀ pair ∈ escapes, pair.2 ≠ 'u' ∧
    escapedChar? pair.2 = some pair.1 ∧ stringChar pair.1 = ['\\', pair.2] := by
  simp only [escapes, List.forall_mem_cons]
  decide

/-- A character stands for itself, or it is written as an escape of its own or as one of its units. -/
theorem stringChar_cases (char : Char) :
    (∃ letter, letter ≠ 'u' ∧ escapedChar? letter = some char ∧ stringChar char = ['\\', letter]) ∨
    (char ≠ '\x22' ∧ char ≠ '\\' ∧ 0x20 ≤ char.toNat ∧ stringChar char = [char]) ∨
    (char.toNat < 0x10000 ∧ stringChar char = unitEscape char.toNat) ∨
    (0x10000 ≤ char.toNat ∧ stringChar char =
      unitEscape (0xD800 + (char.toNat - 0x10000) / 0x400) ++
        unitEscape (0xDC00 + (char.toNat - 0x10000) % 0x400)) := by
  by_cases known : char ∈ escapes.map Prod.fst
  · obtain ⟨pair, member, rfl⟩ := List.mem_map.mp known
    exact .inl ⟨pair.2, stringChar_of_mem_escapes pair member⟩
  simp only [escapes, List.map_cons, List.map_nil, List.mem_cons, List.not_mem_nil, or_false,
    not_or] at known
  obtain ⟨quote, slash, newline, carriage, tab, backspace, feed⟩ := known
  simp only [stringChar, quote, slash, newline, carriage, tab, backspace, feed, if_false]
  split
  · next printable => exact .inr (.inl ⟨quote, slash, printable.1, rfl⟩)
  · split
    · next small => exact .inr (.inr (.inl ⟨small, rfl⟩))
    · next wide => exact .inr (.inr (.inr ⟨Nat.le_of_not_lt wide, rfl⟩))

theorem readString?_stringChar (char : Char) (rest : Text) :
    readString? (stringChar char ++ rest) = prepend char (readString? rest) := by
  have valid : char.toNat < 0xD800 ∨ 0xDFFF < char.toNat ∧ char.toNat < 0x110000 := char.valid
  rcases stringChar_cases char with ⟨letter, apart, escaped, written⟩ |
    ⟨noQuote, noEscape, printable, written⟩ | ⟨small, written⟩ | ⟨wide, written⟩
  · rw [written]
    exact readString?_escaped apart escaped rest
  · rw [written]
    exact readString?_plain noQuote noEscape printable rest
  · rw [written, readString?_unitEscape small (by omega), Char.ofNat_toNat]
  · rw [written, readString?_pair (by omega) (by omega), pairChar_halves wide]

theorem readString?_flatMap (text rest : Text) :
    readString? (text.flatMap stringChar ++ '\x22' :: rest) = some (text, rest) := by
  induction text with
  | nil => simp [readString?]
  | cons char others ih =>
      rw [List.flatMap_cons, List.append_assoc, readString?_stringChar, ih]
      rfl

/-!
## White space
-/

theorem skipSpace_of_mark {mark : Char} (isMark : isSpace mark = false) (rest : Text) :
    skipSpace (mark :: rest) = mark :: rest := by
  simp [skipSpace, isMark]

theorem skipSpace_newline (depth : Nat) (rest : Text) :
    skipSpace (newline depth ++ rest) = skipSpace rest := by
  have spaces (count : Nat) : skipSpace (List.replicate count ' ' ++ rest) = skipSpace rest := by
    induction count with
    | zero => rfl
    | succ count ih => exact ih
  exact spaces (2 * depth)

theorem readValue_space (fuel levels : Nat) (text : Text) :
    readValue fuel levels (' ' :: text) = readValue fuel levels text := by
  cases fuel <;> rfl

theorem readMembers_newline (fuel levels depth : Nat) (text : Text) :
    readMembers fuel levels (newline depth ++ text) = readMembers fuel levels text := by
  cases fuel with
  | zero => rfl
  | succ fuel => simp only [readMembers, skipSpace_newline]

/-!
## Values
-/

/-- Values that are made of texts and of mappings with distinct names, up to so many mappings deep. -/
inductive Textual : Nat → Value → Prop where
  | text {levels : Nat} (text : Text) : Textual levels (.text text)
  | mapping {levels : Nat} {entries : Mapping} (distinct : (entries.map Prod.fst).Nodup)
      (members : ∀ entry ∈ entries, Textual levels entry.2) :
      Textual (levels + 1) (.mapping entries)

/-- A value is read back from what is written of it, whatever stands behind. -/
def ReadsBack (levels depth : Nat) (value : Value) : Prop :=
  ∀ fuel rest, (indented depth value).length ≤ fuel →
    readValue fuel levels (indented depth value ++ rest) = .ok (value, rest)

theorem skipSpace_quote (rest : Text) : skipSpace ('\x22' :: rest) = '\x22' :: rest :=
  skipSpace_of_mark rfl rest

theorem string_append (text rest : Text) :
    string text ++ rest = '\x22' :: (text.flatMap stringChar ++ '\x22' :: rest) := by
  simp [string]

theorem readsBack_text (levels depth : Nat) (text : Text) : ReadsBack levels depth (.text text) := by
  intro fuel rest enough
  rw [indented] at enough ⊢
  cases fuel with
  | zero => simp [string] at enough
  | succ fuel =>
      rw [string_append]
      simp only [readValue, skipSpace_quote, readString?_flatMap]
      rfl

theorem length_indented_lt (depth : Nat) (name : Text) (value : Value) :
    (indented depth value).length < (indentedEntry depth (name, value)).length := by
  rw [indentedEntry, List.length_append, List.length_append]
  have colon : ": ".toList.length = 2 := rfl
  omega

section Members

variable {levels depth fuel : Nat} {value : Value}

theorem readMember (name : Text) (back : ReadsBack levels depth value)
    (enough : (indented depth value).length ≤ fuel) (rest : Text) :
    ∃ before after, indentedEntry depth (name, value) ++ rest = '\x22' :: before ∧
      readString? before = some (name, ':' :: after) ∧
      readValue fuel levels after = .ok (value, rest) := by
  refine ⟨_, ' ' :: (indented depth value ++ rest), ?_, readString?_flatMap name _, ?_⟩
  · simp [indentedEntry, string]
  · rw [readValue_space, back fuel rest enough]

theorem readMembers_last (name : Text) (back : ReadsBack levels depth value)
    (enough : (indented depth value).length ≤ fuel) {rest after : Text}
    (closes : skipSpace rest = '\x7d' :: after) :
    readMembers (fuel + 1) levels (indentedEntry depth (name, value) ++ rest) =
      .ok ([(name, value)], after) := by
  obtain ⟨before, colon, written, named, valued⟩ := readMember name back enough rest
  have mark : skipSpace (':' :: colon) = ':' :: colon := skipSpace_of_mark rfl colon
  rw [written]
  simp only [readMembers, skipSpace_quote, named, mark, valued, closes]

theorem readMembers_next (name : Text) (back : ReadsBack levels depth value)
    (enough : (indented depth value).length ≤ fuel) {rest after : Text}
    (goesOn : skipSpace rest = ',' :: after) :
    readMembers (fuel + 1) levels (indentedEntry depth (name, value) ++ rest) =
      (readMembers fuel levels after).map fun (members, left) => ((name, value) :: members, left) := by
  obtain ⟨before, colon, written, named, valued⟩ := readMember name back enough rest
  have mark : skipSpace (':' :: colon) = ':' :: colon := skipSpace_of_mark rfl colon
  rw [written]
  simp only [readMembers, skipSpace_quote, named, mark, valued, goesOn]

end Members

theorem readMembers_joined {levels depth outer : Nat} {entries : Mapping}
    (back : ∀ entry ∈ entries, ReadsBack levels depth entry.2) (nonempty : entries ≠ []) {fuel : Nat}
    (enough : (Text.joined (',' :: newline depth) (indentedEntries depth entries)).length ≤ fuel)
    (rest : Text) :
    readMembers fuel levels (Text.joined (',' :: newline depth) (indentedEntries depth entries) ++
      (newline outer ++ '\x7d' :: rest)) = .ok (entries, rest) := by
  induction entries generalizing fuel with
  | nil => exact absurd rfl nonempty
  | cons entry others ih =>
      obtain ⟨name, value⟩ := entry
      have first : ReadsBack levels depth value := back _ List.mem_cons_self
      -- A step of fuel is spent on each member, and a member is longer than its value.
      have longer := length_indented_lt depth name value
      cases others with
      | nil =>
          simp only [indentedEntries, Text.joined, List.intercalate_singleton] at enough ⊢
          obtain ⟨fuel, rfl⟩ : ∃ before, fuel = before + 1 := ⟨fuel - 1, by omega⟩
          refine readMembers_last name first (by omega) ?_
          rw [skipSpace_newline, skipSpace_of_mark rfl]
      | cons next others =>
          have later : ∀ member ∈ next :: others, ReadsBack levels depth member.2 :=
            fun member known => back member (List.mem_cons_of_mem _ known)
          simp only [indentedEntries, Text.joined, List.intercalate_cons_cons, List.length_append,
            List.append_assoc, List.cons_append, List.length_cons] at enough ih ⊢
          obtain ⟨fuel, rfl⟩ : ∃ before, fuel = before + 1 := ⟨fuel - 1, by omega⟩
          rw [readMembers_next name first (by omega) (skipSpace_of_mark rfl _), readMembers_newline,
            ih later (List.cons_ne_nil _ _) (by omega)]
          rfl

theorem joined_indentedEntries_begins (depth : Nat) (entry : Text × Value) (others : Mapping)
    (rest : Text) :
    ∃ tail, Text.joined (',' :: newline depth) (indentedEntries depth (entry :: others)) ++ rest =
      '\x22' :: tail := by
  obtain ⟨name, value⟩ := entry
  cases others with
  | nil =>
      rw [indentedEntries, indentedEntries, Text.joined, List.intercalate_singleton, indentedEntry,
        List.append_assoc, List.append_assoc, string_append]
      exact ⟨_, rfl⟩
  | cons next others =>
      rw [indentedEntries, indentedEntries, Text.joined, List.intercalate_cons_cons, indentedEntry,
        List.append_assoc, List.append_assoc, List.append_assoc, List.append_assoc, string_append]
      exact ⟨_, rfl⟩

theorem indented_mapping_cons (depth : Nat) (entry : Text × Value) (others : Mapping) (rest : Text) :
    indented depth (.mapping (entry :: others)) ++ rest =
      '\x7b' :: (newline (depth + 1) ++
        (Text.joined (',' :: newline (depth + 1)) (indentedEntries (depth + 1) (entry :: others)) ++
          (newline depth ++ '\x7d' :: rest))) := by
  simp [indented, block, indentedEntries]

theorem readValue_members {fuel levels : Nat} {text tail after : Text} {members : Mapping}
    (opens : skipSpace text = '\x22' :: tail)
    (read : readMembers fuel levels ('\x22' :: tail) = .ok (members, after)) :
    readValue (fuel + 1) (levels + 1) ('\x7b' :: text) =
      .ok (.mapping (Mapping.ofList members), after) := by
  have brace : skipSpace ('\x7b' :: text) = '\x7b' :: text := skipSpace_of_mark rfl text
  simp only [readValue, brace, opens]
  exact congrArg (Except.map _) read

theorem foldl_insert_entries (map : ParameterMap Value) (entries : Mapping) :
    entries.foldl (fun mapping entry => Mapping.insert entry.1 entry.2 mapping) map.entries =
      (map.insertMany entries).entries := by
  induction entries generalizing map with
  | nil => rfl
  | cons entry rest ih => exact ih (map.insert entry.1 entry.2)

theorem ofList_of_nodup {entries : Mapping} (distinct : (entries.map Prod.fst).Nodup) :
    Mapping.ofList entries = entries :=
  calc
    Mapping.ofList entries = (ParameterMap.ofList entries).entries := foldl_insert_entries .empty entries
    _ = entries := ParameterMap.entries_ofList_of_nodup distinct

/-- A value of texts and mappings is read back from its lines. -/
theorem Textual.readsBack {levels : Nat} {value : Value} (textual : Textual levels value) :
    ∀ depth, ReadsBack levels depth value := by
  induction textual with
  | text text => exact fun depth => readsBack_text _ depth text
  | @mapping levels entries distinct members ih =>
      intro depth fuel rest enough
      cases entries with
      | nil =>
          cases fuel with
          | zero => simp [indented, indentedEntries, block] at enough
          | succ fuel =>
              simp [indented, indentedEntries, block, readValue, skipSpace_of_mark, isSpace]
      | cons entry others =>
          have back : ∀ member ∈ entry :: others, ReadsBack levels (depth + 1) member.2 :=
            fun member known => ih member known (depth + 1)
          have written := indented_mapping_cons depth entry others rest
          have long := congrArg List.length written
          simp only [List.length_append, List.length_cons] at long
          obtain ⟨fuel, rfl⟩ : ∃ before, fuel = before + 1 := ⟨fuel - 1, by omega⟩
          have shorter : (Text.joined (',' :: newline (depth + 1))
              (indentedEntries (depth + 1) (entry :: others))).length ≤ fuel := by omega
          have read := @readMembers_joined _ _ depth _ back (List.cons_ne_nil _ _) _ shorter rest
          obtain ⟨tail, begins⟩ := joined_indentedEntries_begins (depth + 1) entry others
            (newline depth ++ '\x7d' :: rest)
          rw [begins] at written read
          rw [written, readValue_members ?_ read, ofList_of_nodup distinct]
          rw [skipSpace_newline, skipSpace_quote]

theorem read_indented {value : Value} (textual : Textual depthLimit value) (depth : Nat) {after : Text}
    (blank : skipSpace after = []) : read (indented depth value ++ after) = .ok value := by
  have enough : (indented depth value).length ≤ 2 * (indented depth value ++ after).length + 2 := by
    rw [List.length_append]
    omega
  rw [read, textual.readsBack depth _ after enough]
  simp [blank]

/-- Only a word for a number begins with this letter. -/
theorem read_of_not_word {rest : Text} (noWord : readWord? ('I' :: rest) = none) :
    read ('I' :: rest) = .error .malformed := by
  have noSpace : skipSpace ('I' :: rest) = 'I' :: rest := skipSpace_of_mark rfl rest
  have noDigits : digitsOf ('I' :: rest) = ([], 'I' :: rest) := rfl
  have noNumber : readNumber? false ('I' :: rest) = none := by
    simp [readNumber?, noDigits]
  have noValue (fuel levels : Nat) :
      readValue (fuel + 1) levels ('I' :: rest) = .error .malformed := by
    simp only [readValue, noSpace]
    simp [noWord, noNumber, required]
  rw [read, noValue]

end ConnectionUri.Json
