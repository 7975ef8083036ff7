import ConnectionUri.Proofs.Percent.Runs

/-!
# Decoding of whole texts

The runs of ASCII characters are decoded one by one, and still the result is that of decoding all the
bytes of a text at once: a character beyond ASCII begins with a byte that continues no sequence, so no
sequence reaches into it. `decode_of_all_bytes` says so with the strict decoder of the standard
library, and names the first percent sign that starts no escape where there is one.
-/

set_option autoImplicit false

/-!
## Boundaries between characters
-/

namespace ConnectionUri.Utf8

theorem eq_nil_of_isUTF8FirstByte {char : Char} {front more : List UInt8} {byte : UInt8}
    (begins : byte.IsUTF8FirstByte) (inside : String.utf8EncodeChar char = front ++ byte :: more) :
    front = [] := by
  have within : front.length < (String.utf8EncodeChar char).length := by
    rw [inside]
    simp
  have found : (String.utf8EncodeChar char)[front.length] = byte := by
    simp [inside]
  exact List.length_eq_zero_iff.mp (UInt8.isUTF8FirstByte_getElem_utf8EncodeChar.mp (found ▸ begins))

theorem exists_utf8EncodeChar_eq_cons (char : Char) :
    ∃ first more, String.utf8EncodeChar char = first :: more ∧ first.IsUTF8FirstByte := by
  obtain ⟨first, more, written⟩ := List.exists_cons_of_ne_nil (String.utf8EncodeChar_ne_nil (c := char))
  have begins := UInt8.isUTF8FirstByte_getElem_zero_utf8EncodeChar (c := char)
  simp only [written, List.getElem_cons_zero] at begins
  exact ⟨first, more, written, begins⟩

/-- UTF-8 synchronizes itself: before any byte that can begin a character an encoded text is cut
between two of its characters. -/
theorem encode_eq_append_iff {text : Text} {front back : List UInt8}
    (begins : ∀ byte ∈ back.head?, byte.IsUTF8FirstByte) :
    encode text = front ++ back ↔
      ∃ left right, text = left ++ right ∧ encode left = front ∧ encode right = back := by
  constructor
  · intro encoded
    induction text generalizing front with
    | nil =>
        obtain ⟨rfl, rfl⟩ := List.append_eq_nil_iff.mp encoded.symm
        exact ⟨[], [], rfl, rfl, rfl⟩
    | cons char text ih =>
        have shape : String.utf8EncodeChar char ++ encode text = front ++ back := encoded
        rcases List.append_eq_append_iff.mp shape with
          ⟨middle, rfl, later⟩ | ⟨middle, inside, rfl⟩
        · obtain ⟨left, right, rfl, rfl, rfl⟩ := ih later
          exact ⟨char :: left, right, rfl, rfl, rfl⟩
        · cases middle with
          | nil =>
              rw [List.append_nil] at inside
              exact ⟨[char], text, rfl, (List.append_nil _).trans inside, rfl⟩
          | cons byte more =>
              obtain rfl := eq_nil_of_isUTF8FirstByte (begins byte rfl) inside
              exact ⟨[], char :: text, rfl, rfl, shape⟩
  · rintro ⟨left, right, rfl, rfl, rfl⟩
    exact List.flatMap_append

theorem decode?_append {front back : List UInt8}
    (begins : ∀ byte ∈ back.head?, byte.IsUTF8FirstByte) :
    decode? (front ++ back) = (decode? front).bind fun left => (decode? back).map (left ++ ·) := by
  ext text
  simp only [decode?_eq_some_iff, encode_eq_append_iff begins, Option.bind_eq_some_iff,
    Option.map_eq_some_iff]
  constructor
  · rintro ⟨left, right, rfl, ofLeft, ofRight⟩
    exact ⟨left, ofLeft, right, ofRight, rfl⟩
  · rintro ⟨left, ofLeft, right, ofRight, rfl⟩
    exact ⟨left, right, rfl, ofLeft, ofRight⟩

end ConnectionUri.Utf8

/-!
## The strict decoder of the standard library
-/

namespace ConnectionUri.Utf8

theorem fromUTF8?_eq_some_iff {bytes : ByteArray} {string : String} :
    String.fromUTF8? bytes = some string ↔ string.toByteArray = bytes := by
  unfold String.fromUTF8?
  split
  · next valid =>
      rw [Option.some.injEq, ← String.toByteArray_inj]
      exact eq_comm
  · next broken =>
      simp only [reduceCtorEq, false_iff]
      rintro rfl
      exact broken string.isValidUTF8

theorem toByteArray_encode (string : String) :
    (encode string.toList).toByteArray = string.toByteArray := by
  calc (encode string.toList).toByteArray
      = (String.ofList string.toList).toByteArray := String.toByteArray_ofList.symm
    _ = string.toByteArray := by rw [String.ofList_toList]

theorem decode?_eq_fromUTF8? (bytes : List UInt8) :
    decode? bytes = (String.fromUTF8? bytes.toByteArray).map String.toList := by
  ext text
  simp only [decode?_eq_some_iff, Option.map_eq_some_iff, fromUTF8?_eq_some_iff,
    ← toByteArray_encode, List.toByteArray_inj]
  constructor
  · intro encoded
    exact ⟨String.ofList text, by rwa [String.toList_ofList], String.toList_ofList⟩
  · rintro ⟨string, encoded, rfl⟩
    exact encoded

end ConnectionUri.Utf8

/-!
## Bytes of pieces
-/

namespace ConnectionUri.Percent

def Piece.bytes : Piece → List UInt8
  | .byte value => [value]
  | .foreign char => String.utf8EncodeChar char

theorem Piece.bytes_ofChar (char : Char) :
    (Piece.ofChar char).bytes = if char = '+' then [0x20] else String.utf8EncodeChar char := by
  unfold ofChar
  split
  · rfl
  · split
    · next ascii =>
        have single : String.utf8EncodeChar char = [UInt8.ofNat char.toNat] :=
          if_pos (Nat.le_of_lt_succ ascii)
        exact single.symm
    · rfl

theorem formBytes_eq_flatMap (value : Text) :
    formBytes value = (pieces value).flatMap Piece.bytes := by
  induction value using pieces.induct with
  | case1 => rfl
  | case2 high low rest ih =>
      rw [formBytes, pieces, List.flatMap_cons, ih]
      rfl
  | case3 char rest noEscape ih =>
      rw [formBytes.eq_3 _ _ noEscape, pieces.eq_3 _ _ noEscape, List.flatMap_cons, ih,
        Piece.bytes_ofChar]

/-- The bytes of a foreign character and of the run after it. -/
def rowBytes (row : Char × List UInt8) : List UInt8 := String.utf8EncodeChar row.1 ++ row.2

theorem flatMap_bytes_eq_runs (pieces : List Piece) :
    pieces.flatMap Piece.bytes = (runs pieces).1 ++ (runs pieces).2.flatMap rowBytes := by
  induction pieces with
  | nil => rfl
  | cons piece pieces ih =>
      cases piece with
      | byte value => simp only [List.flatMap_cons, ih, Piece.bytes, runs, List.cons_append,
          List.nil_append]
      | foreign char => simp only [List.flatMap_cons, ih, Piece.bytes, runs, rowBytes,
          List.nil_append, List.append_assoc]

theorem isUTF8FirstByte_rowBytes (rows : List (Char × List UInt8)) :
    ∀ byte ∈ (rows.flatMap rowBytes).head?, byte.IsUTF8FirstByte := by
  cases rows with
  | nil => simp
  | cons row rows =>
      obtain ⟨first, more, written, begins⟩ := Utf8.exists_utf8EncodeChar_eq_cons row.1
      simpa [rowBytes, written] using begins

theorem decodeRuns?_eq_decode? (rows : List (Char × List UInt8)) :
    decodeRuns? rows = Utf8.decode? (rows.flatMap rowBytes) := by
  induction rows with
  | nil => rfl
  | cons row rows ih =>
      obtain ⟨char, run⟩ := row
      rw [List.flatMap_cons, rowBytes, List.append_assoc, Utf8.decode?_utf8EncodeChar_append,
        Utf8.decode?_append (isUTF8FirstByte_rowBytes rows), decodeRuns?, ih]
      cases Utf8.decode? run with
      | none => rfl
      | some text => cases Utf8.decode? (rows.flatMap rowBytes) <;> rfl

theorem decodePieces?_eq_decode? (pieces : List Piece) :
    decodePieces? pieces = Utf8.decode? (pieces.flatMap Piece.bytes) := by
  rw [flatMap_bytes_eq_runs, Utf8.decode?_append (isUTF8FirstByte_rowBytes _), decodePieces?,
    decodeRuns?_eq_decode?]
  cases Utf8.decode? (runs pieces).1 with
  | none => rfl
  | some text => cases Utf8.decode? ((runs pieces).2.flatMap rowBytes) <;> rfl

end ConnectionUri.Percent

/-!
## Stray percent signs
-/

namespace ConnectionUri.Percent

/-- The character at an index is a percent sign that two hexadecimal digits do not follow. -/
structure IsStray (value : Text) (index : Nat) : Prop where
  percent : value[index]? = some '%'
  noDigits : ∀ high ∈ value[index + 1]?, ∀ low ∈ value[index + 2]?,
    (Text.isHexDigit high && Text.isHexDigit low) = false

def IsFirstStray (value : Text) (index : Nat) : Prop :=
  IsStray value index ∧ ∀ earlier < index, ¬ IsStray value earlier

theorem isStray_succ_iff {char : Char} {rest : Text} {index : Nat} :
    IsStray (char :: rest) (index + 1) ↔ IsStray rest index :=
  ⟨fun ⟨percent, noDigits⟩ => ⟨percent, noDigits⟩, fun ⟨percent, noDigits⟩ => ⟨percent, noDigits⟩⟩

theorem isFirstStray_iff_of_stray {value : Text} {index : Nat} (stray : IsStray value 0) :
    IsFirstStray value index ↔ index = 0 := by
  constructor
  · rintro ⟨-, first⟩
    exact Nat.eq_zero_of_not_pos fun positive => first 0 positive stray
  · rintro rfl
    exact ⟨stray, fun _ earlier => absurd earlier (Nat.not_lt_zero _)⟩

theorem isFirstStray_cons_iff {char : Char} {rest : Text} {index : Nat}
    (whole : ¬ IsStray (char :: rest) 0) :
    IsFirstStray (char :: rest) index ↔ ∃ later, IsFirstStray rest later ∧ later + 1 = index := by
  constructor
  · rintro ⟨stray, first⟩
    cases index with
    | zero => exact absurd stray whole
    | succ later =>
        refine ⟨later, ⟨isStray_succ_iff.mp stray, fun earlier before found => ?_⟩, rfl⟩
        exact first (earlier + 1) (Nat.succ_lt_succ before) (isStray_succ_iff.mpr found)
  · rintro ⟨later, ⟨stray, first⟩, rfl⟩
    refine ⟨isStray_succ_iff.mpr stray, fun earlier before => ?_⟩
    cases earlier with
    | zero => exact whole
    | succ earlier =>
        exact fun found => first earlier (Nat.lt_of_succ_lt_succ before) (isStray_succ_iff.mp found)

theorem ne_percent_of_isHexDigit {char : Char} (digit : Text.isHexDigit char = true) :
    char ≠ '%' := by
  rintro rfl
  revert digit
  decide

theorem strayPercent?_eq_some_iff {value : Text} {index : Nat} :
    strayPercent? value = some index ↔ IsFirstStray value index := by
  induction value using strayPercent?.induct generalizing index with
  | case1 =>
      simp only [strayPercent?, reduceCtorEq, false_iff]
      rintro ⟨⟨percent, -⟩, -⟩
      cases percent
  | case2 high low rest digits ih =>
      -- The three characters of an escape are passed over together, and none of them is stray.
      have shifted : strayPercent? ('%' :: high :: low :: rest) =
          (strayPercent? rest).map (· + 3) := by
        simp [strayPercent?, digits]
      rw [Bool.and_eq_true] at digits
      have atPercent : ¬ IsStray ('%' :: high :: low :: rest) 0 := by
        intro stray
        simpa [digits] using stray.noDigits high rfl low rfl
      have atHigh : ¬ IsStray (high :: low :: rest) 0 := fun stray =>
        ne_percent_of_isHexDigit digits.1 (Option.some.inj stray.percent)
      have atLow : ¬ IsStray (low :: rest) 0 := fun stray =>
        ne_percent_of_isHexDigit digits.2 (Option.some.inj stray.percent)
      rw [shifted, Option.map_eq_some_iff, isFirstStray_cons_iff atPercent]
      simp only [isFirstStray_cons_iff atHigh, isFirstStray_cons_iff atLow, ih]
      constructor
      · rintro ⟨later, first, rfl⟩
        exact ⟨_, ⟨_, ⟨later, first, rfl⟩, rfl⟩, rfl⟩
      · rintro ⟨_, ⟨_, ⟨later, first, rfl⟩, rfl⟩, rfl⟩
        exact ⟨later, first, rfl⟩
  | case3 high low rest noDigits =>
      have here : IsStray ('%' :: high :: low :: rest) 0 := by
        refine ⟨rfl, ?_⟩
        rintro _ ⟨⟩ _ ⟨⟩
        exact Bool.eq_false_iff.mpr noDigits
      rw [isFirstStray_iff_of_stray here]
      simp [strayPercent?, noDigits, eq_comm]
  | case4 rest noEscape =>
      have here : IsStray ('%' :: rest) 0 := by
        refine ⟨rfl, fun high first low second => ?_⟩
        obtain _ | ⟨head, _ | ⟨next, tail⟩⟩ := rest
        · cases first
        · cases second
        · exact absurd rfl (noEscape head next tail rfl)
      rw [isFirstStray_iff_of_stray here, strayPercent?.eq_3 _ _ noEscape, if_pos rfl,
        Option.some.injEq, eq_comm]
  | case5 char rest noEscape plain ih =>
      have notHere : ¬ IsStray (char :: rest) 0 := fun stray =>
        plain (Option.some.inj stray.percent)
      rw [isFirstStray_cons_iff notHere, strayPercent?_cons plain, Option.map_eq_some_iff]
      simp only [ih]

theorem strayPercent?_eq_none_iff_forall {value : Text} :
    strayPercent? value = none ↔ ∀ index, ¬ IsStray value index := by
  constructor
  · intro missing index
    induction index using Nat.strongRecOn with
    | ind index earlier =>
        intro stray
        rw [strayPercent?_eq_some_iff.mpr ⟨stray, earlier⟩] at missing
        cases missing
  · intro whole
    cases found : strayPercent? value with
    | none => rfl
    | some index => exact absurd (strayPercent?_eq_some_iff.mp found).1 (whole index)

end ConnectionUri.Percent

/-!
## Decoded texts
-/

namespace ConnectionUri.Percent

/-- Decoding fails at the first stray percent sign. Without one it is the strict decoding of all the
bytes that a text stands for. -/
theorem decode_of_all_bytes (value : Text) :
    (∀ index, decode value = .error (.malformedEscape index value) ↔ IsFirstStray value index) ∧
    ((∀ index, ¬ IsStray value index) →
      decode value = (String.fromUTF8? (formBytes value).toByteArray).elim
        (.error (.notUtf8 value)) fun text => .ok text.toList) ∧
    (∀ index, "Malformed percent-escape at index ".toList ++ Text.decimal index <+:
      (DecodingError.malformedEscape index value).message) ∧
    "Unable to decode ".toList <+: (DecodingError.notUtf8 value).message := by
  refine ⟨fun index => ?_, fun whole => ?_, fun index => ?_, ?_⟩
  · rw [← strayPercent?_eq_some_iff, decode]
    cases strayPercent? value with
    | some found => simp
    | none => cases decodePieces? (pieces value) <;> simp
  · rw [decode, strayPercent?_eq_none_iff_forall.mpr whole, decodePieces?_eq_decode?,
      ← formBytes_eq_flatMap, Utf8.decode?_eq_fromUTF8?]
    cases String.fromUTF8? (formBytes value).toByteArray <;> rfl
  · exact (List.prefix_append _ " in ".toList).trans (List.prefix_append _ (Text.quoted value))
  · exact (List.prefix_append _ (Text.quoted value)).trans (List.prefix_append _ " as utf-8".toList)

/-- A sequence that a literal character interrupts is no UTF-8, also where its rest follows. -/
theorem decode_interrupted :
    (∀ index, ¬ IsStray "%C3é%A9".toList index) ∧
      decode "%C3é%A9".toList = .error (.notUtf8 "%C3é%A9".toList) ∧
      decode "%C3%A9é+".toList = .ok "éé ".toList ∧
      decode "é%41%4é".toList = .error (.malformedEscape 4 "é%41%4é".toList) := by
  have broken : String.fromUTF8? (formBytes "%C3é%A9".toList).toByteArray = none := by
    have unread : Utf8.decode? (formBytes "%C3é%A9".toList) = none := by decide +kernel
    rwa [Utf8.decode?_eq_fromUTF8?, Option.map_eq_none_iff] at unread
  have joined : (String.fromUTF8? (formBytes "%C3%A9é+".toList).toByteArray).map String.toList =
      some "éé ".toList := by
    rw [← Utf8.decode?_eq_fromUTF8?]
    decide +kernel
  obtain ⟨-, interrupted, -⟩ := decode_of_all_bytes "%C3é%A9".toList
  obtain ⟨-, adjacent, -⟩ := decode_of_all_bytes "%C3%A9é+".toList
  obtain ⟨stray, -⟩ := decode_of_all_bytes "é%41%4é".toList
  have whole : ∀ index, ¬ IsStray "%C3é%A9".toList index :=
    strayPercent?_eq_none_iff_forall.mp (by decide)
  refine ⟨whole, ?_, ?_, (stray 4).mpr (strayPercent?_eq_some_iff.mp (by decide))⟩
  · rw [interrupted whole, broken]
    rfl
  · obtain ⟨string, found, same⟩ := Option.map_eq_some_iff.mp joined
    rw [adjacent (strayPercent?_eq_none_iff_forall.mp (by decide)), found]
    exact congrArg Except.ok same

end ConnectionUri.Percent
