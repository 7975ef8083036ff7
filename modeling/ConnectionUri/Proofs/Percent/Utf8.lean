import ConnectionUri.Percent.Utf8

/-!
# UTF-8 round trips

`decode?_utf8EncodeChar_append` reads one character off its encoded form, whatever bytes follow, and
`decode?_encode` says that a text survives encoding and strict decoding. `decode?_eq_some_iff` adds
the converse: nothing but encoded texts is read. All other bytes have a fault.
-/

set_option autoImplicit false

/-!
## Whole sequences
-/

namespace ConnectionUri.Utf8

theorem isContinuation_iff {byte : UInt8} :
    isContinuation byte = true ↔ 0x80 ≤ byte.toNat ∧ byte.toNat ≤ 0xBF := by
  simp [isContinuation, UInt8.le_iff_toNat_le]

theorem isPair_iff {first second : UInt8} :
    isPair first second = true ↔
      0xC2 ≤ first.toNat ∧ first.toNat ≤ 0xDF ∧ isContinuation second = true := by
  simp [isPair, UInt8.le_iff_toNat_le, and_assoc]

theorem isTriple_iff {first second third : UInt8} :
    isTriple first second third = true ↔
      0xE0 ≤ first.toNat ∧ first.toNat ≤ 0xEF ∧ isContinuation second = true ∧
        isContinuation third = true ∧ (first.toNat = 0xE0 → 0xA0 ≤ second.toNat) ∧
        (first.toNat = 0xED → second.toNat ≤ 0x9F) := by
  simp [isTriple, UInt8.le_iff_toNat_le, ← UInt8.toNat_inj, and_assoc, Decidable.imp_iff_not_or]

theorem isQuadruple_iff {first second third fourth : UInt8} :
    isQuadruple first second third fourth = true ↔
      0xF0 ≤ first.toNat ∧ first.toNat ≤ 0xF4 ∧ isContinuation second = true ∧
        isContinuation third = true ∧ isContinuation fourth = true ∧
        (first.toNat = 0xF0 → 0x90 ≤ second.toNat) ∧
        (first.toNat = 0xF4 → second.toNat ≤ 0x8F) := by
  simp [isQuadruple, UInt8.le_iff_toNat_le, ← UInt8.toNat_inj, and_assoc,
    Decidable.imp_iff_not_or]

theorem decode?_of_ascii {first : UInt8} (ascii : first.toNat < 0x80) (rest : List UInt8) :
    decode? (first :: rest) = (decode? rest).map (Char.ofNat first.toNat :: ·) := by
  have isAscii : first < 0x80 := UInt8.lt_iff_toNat_lt.mpr ascii
  rw [decode?.eq_def]
  simp only [isAscii, if_true]

private theorem not_lt_of_le_toNat {byte : UInt8} (least : 0x80 ≤ byte.toNat) : ¬ byte < 0x80 := by
  rw [UInt8.lt_iff_toNat_lt]
  exact Nat.not_lt.mpr least

theorem decode?_of_isPair {first second : UInt8} (whole : isPair first second = true)
    (rest : List UInt8) :
    decode? (first :: second :: rest) =
      (decode? rest).map (charOf (first.toNat - 0xC0) [second] :: ·) := by
  obtain ⟨least, -, -⟩ := isPair_iff.mp whole
  have notAscii : ¬ first < 0x80 := not_lt_of_le_toNat (Nat.le_trans (by decide) least)
  rw [decode?.eq_def]
  simp only [notAscii, whole, if_true, if_false]

theorem decode?_of_isTriple {first second third : UInt8}
    (whole : isTriple first second third = true) (rest : List UInt8) :
    decode? (first :: second :: third :: rest) =
      (decode? rest).map (charOf (first.toNat - 0xE0) [second, third] :: ·) := by
  obtain ⟨least, -, -⟩ := isTriple_iff.mp whole
  have notAscii : ¬ first < 0x80 := not_lt_of_le_toNat (Nat.le_trans (by decide) least)
  have noPair : ¬ isPair first second = true := by
    rw [isPair_iff]
    omega
  rw [decode?.eq_def]
  simp only [notAscii, noPair, whole, Bool.false_eq_true, if_true, if_false]

theorem decode?_of_isQuadruple {first second third fourth : UInt8}
    (whole : isQuadruple first second third fourth = true) (rest : List UInt8) :
    decode? (first :: second :: third :: fourth :: rest) =
      (decode? rest).map (charOf (first.toNat - 0xF0) [second, third, fourth] :: ·) := by
  obtain ⟨least, -, -⟩ := isQuadruple_iff.mp whole
  have notAscii : ¬ first < 0x80 := not_lt_of_le_toNat (Nat.le_trans (by decide) least)
  have noPair : ¬ isPair first second = true := by
    rw [isPair_iff]
    omega
  have noTriple : ¬ isTriple first second third = true := by
    rw [isTriple_iff]
    omega
  rw [decode?.eq_def]
  simp only [notAscii, noPair, noTriple, whole, Bool.false_eq_true, if_true, if_false]

end ConnectionUri.Utf8

/-!
## Encoded characters
-/

namespace ConnectionUri.Utf8

private theorem toNat_byte {code : Nat} (fits : code < 0x100) :
    (UInt8.ofNat code).toNat = code := by
  rw [UInt8.toNat_ofNat']
  exact Nat.mod_eq_of_lt fits

private theorem decode?_oneByte {code : Nat} (fits : code ≤ 0x7F) (rest : List UInt8) :
    decode? (UInt8.ofNat code :: rest) = (decode? rest).map (Char.ofNat code :: ·) := by
  have byte : (UInt8.ofNat code).toNat = code := toNat_byte (by omega)
  rw [decode?_of_ascii (by omega), byte]

private theorem decode?_twoBytes {code : Nat} (beyond : ¬ code ≤ 0x7F) (fits : code ≤ 0x7FF)
    (rest : List UInt8) :
    decode? (UInt8.ofNat (code / 64 % 0x20 + 0xC0) :: UInt8.ofNat (code % 0x40 + 0x80) :: rest) =
      (decode? rest).map (Char.ofNat code :: ·) := by
  have first := toNat_byte (show code / 64 % 0x20 + 0xC0 < 0x100 by omega)
  have second := toNat_byte (show code % 0x40 + 0x80 < 0x100 by omega)
  have whole : isPair (UInt8.ofNat (code / 64 % 0x20 + 0xC0))
      (UInt8.ofNat (code % 0x40 + 0x80)) = true := by
    rw [isPair_iff, isContinuation_iff, first, second]
    omega
  have value : (code / 64 % 0x20 + 0xC0 - 0xC0) * 64 + (code % 0x40 + 0x80 - 0x80) = code := by
    omega
  rw [decode?_of_isPair whole]
  simp only [charOf, List.foldl, first, second, value]

private theorem decode?_threeBytes {code : Nat} (beyond : ¬ code ≤ 0x7FF) (fits : code ≤ 0xFFFF)
    (noSurrogate : code < 0xD800 ∨ 0xDFFF < code) (rest : List UInt8) :
    decode? (UInt8.ofNat (code / 4096 % 0x10 + 0xE0) :: UInt8.ofNat (code / 64 % 0x40 + 0x80) ::
      UInt8.ofNat (code % 0x40 + 0x80) :: rest) = (decode? rest).map (Char.ofNat code :: ·) := by
  have first := toNat_byte (show code / 4096 % 0x10 + 0xE0 < 0x100 by omega)
  have second := toNat_byte (show code / 64 % 0x40 + 0x80 < 0x100 by omega)
  have third := toNat_byte (show code % 0x40 + 0x80 < 0x100 by omega)
  have whole : isTriple (UInt8.ofNat (code / 4096 % 0x10 + 0xE0))
      (UInt8.ofNat (code / 64 % 0x40 + 0x80)) (UInt8.ofNat (code % 0x40 + 0x80)) = true := by
    rw [isTriple_iff, isContinuation_iff, isContinuation_iff, first, second, third]
    omega
  have value : ((code / 4096 % 0x10 + 0xE0 - 0xE0) * 64 + (code / 64 % 0x40 + 0x80 - 0x80)) * 64 +
      (code % 0x40 + 0x80 - 0x80) = code := by omega
  rw [decode?_of_isTriple whole]
  simp only [charOf, List.foldl, first, second, third, value]

private theorem decode?_fourBytes {code : Nat} (beyond : ¬ code ≤ 0xFFFF) (fits : code < 0x110000)
    (rest : List UInt8) :
    decode? (UInt8.ofNat (code / 262144 % 0x08 + 0xF0) ::
      UInt8.ofNat (code / 4096 % 0x40 + 0x80) :: UInt8.ofNat (code / 64 % 0x40 + 0x80) ::
      UInt8.ofNat (code % 0x40 + 0x80) :: rest) = (decode? rest).map (Char.ofNat code :: ·) := by
  have first := toNat_byte (show code / 262144 % 0x08 + 0xF0 < 0x100 by omega)
  have second := toNat_byte (show code / 4096 % 0x40 + 0x80 < 0x100 by omega)
  have third := toNat_byte (show code / 64 % 0x40 + 0x80 < 0x100 by omega)
  have fourth := toNat_byte (show code % 0x40 + 0x80 < 0x100 by omega)
  have whole : isQuadruple (UInt8.ofNat (code / 262144 % 0x08 + 0xF0))
      (UInt8.ofNat (code / 4096 % 0x40 + 0x80)) (UInt8.ofNat (code / 64 % 0x40 + 0x80))
      (UInt8.ofNat (code % 0x40 + 0x80)) = true := by
    rw [isQuadruple_iff, isContinuation_iff, isContinuation_iff, isContinuation_iff, first,
      second, third, fourth]
    omega
  have value : (((code / 262144 % 0x08 + 0xF0 - 0xF0) * 64 +
      (code / 4096 % 0x40 + 0x80 - 0x80)) * 64 + (code / 64 % 0x40 + 0x80 - 0x80)) * 64 +
      (code % 0x40 + 0x80 - 0x80) = code := by omega
  rw [decode?_of_isQuadruple whole]
  simp only [charOf, List.foldl, first, second, third, fourth, value]

/-- Every character is read off its encoded form, whatever follows. -/
theorem decode?_utf8EncodeChar_append (char : Char) (rest : List UInt8) :
    decode? (String.utf8EncodeChar char ++ rest) = (decode? rest).map (char :: ·) := by
  have valid : char.val.toNat < 0xD800 ∨ 0xDFFF < char.val.toNat ∧ char.val.toNat < 0x110000 :=
    char.valid
  have same : Char.ofNat char.val.toNat = char := Char.ofNat_toNat char
  unfold String.utf8EncodeChar
  generalize char.val.toNat = code at valid same ⊢
  -- The width of the encoded form is the one that the size of the code point asks for.
  by_cases one : code ≤ 0x7F
  · simpa [one, same] using decode?_oneByte one rest
  by_cases two : code ≤ 0x7FF
  · simpa [one, two, same] using decode?_twoBytes one two rest
  by_cases three : code ≤ 0xFFFF
  · simpa [one, two, three, same] using decode?_threeBytes two three (by omega) rest
  · simpa [one, two, three, same] using decode?_fourBytes three (by omega) rest

/-- A text survives encoding and strict decoding. -/
theorem decode?_encode (text : Text) : decode? (encode text) = some text := by
  induction text with
  | nil => rfl
  | cons char rest ih =>
      simp only [encode, List.flatMap_cons, decode?_utf8EncodeChar_append] at ih ⊢
      rw [ih, Option.map_some]

end ConnectionUri.Utf8

/-!
## Decoded sequences
-/

namespace ConnectionUri.Utf8

private theorem toNat_val_ofNat {code : Nat} (valid : code.isValidChar) :
    (Char.ofNat code).val.toNat = code := by
  rw [Char.ofNat, dif_pos valid]
  rfl

private theorem ofNat_eq_of_toNat {code : Nat} {byte : UInt8} (same : code = byte.toNat) :
    UInt8.ofNat code = byte := by
  rw [same, UInt8.ofNat_toNat]

theorem utf8EncodeChar_of_ascii {first : UInt8} (ascii : first.toNat < 0x80) :
    String.utf8EncodeChar (Char.ofNat first.toNat) = [first] := by
  have code := toNat_val_ofNat (show first.toNat.isValidChar from .inl (by omega))
  unfold String.utf8EncodeChar
  rw [code]
  simp [show first.toNat ≤ 0x7F by omega]

theorem utf8EncodeChar_of_isPair {first second : UInt8} (whole : isPair first second = true) :
    String.utf8EncodeChar (charOf (first.toNat - 0xC0) [second]) = [first, second] := by
  obtain ⟨least, most, continues⟩ := isPair_iff.mp whole
  have tail := isContinuation_iff.mp continues
  have code : (charOf (first.toNat - 0xC0) [second]).val.toNat =
      (first.toNat - 0xC0) * 64 + (second.toNat - 0x80) := toNat_val_ofNat (.inl (by simp only [List.foldl]; omega))
  unfold String.utf8EncodeChar
  rw [code]
  generalize sum : (first.toNat - 0xC0) * 64 + (second.toNat - 0x80) = value
  have beyond : ¬ value ≤ 0x7F := by omega
  have fits : value ≤ 0x7FF := by omega
  simp only [beyond, fits, if_false, if_true, List.cons.injEq, and_true]
  exact ⟨ofNat_eq_of_toNat (by omega), ofNat_eq_of_toNat (by omega)⟩

theorem utf8EncodeChar_of_isTriple {first second third : UInt8}
    (whole : isTriple first second third = true) :
    String.utf8EncodeChar (charOf (first.toNat - 0xE0) [second, third]) =
      [first, second, third] := by
  obtain ⟨least, most, secondContinues, thirdContinues, shortest, noSurrogate⟩ :=
    isTriple_iff.mp whole
  have secondTail := isContinuation_iff.mp secondContinues
  have thirdTail := isContinuation_iff.mp thirdContinues
  have code : (charOf (first.toNat - 0xE0) [second, third]).val.toNat =
      ((first.toNat - 0xE0) * 64 + (second.toNat - 0x80)) * 64 + (third.toNat - 0x80) :=
    toNat_val_ofNat (by unfold Nat.isValidChar; simp only [List.foldl]; omega)
  unfold String.utf8EncodeChar
  rw [code]
  generalize sum : ((first.toNat - 0xE0) * 64 + (second.toNat - 0x80)) * 64 +
    (third.toNat - 0x80) = value
  have beyondOne : ¬ value ≤ 0x7F := by omega
  have beyondTwo : ¬ value ≤ 0x7FF := by omega
  have fits : value ≤ 0xFFFF := by omega
  simp only [beyondOne, beyondTwo, fits, if_false, if_true, List.cons.injEq, and_true]
  exact ⟨ofNat_eq_of_toNat (by omega), ofNat_eq_of_toNat (by omega), ofNat_eq_of_toNat (by omega)⟩

theorem utf8EncodeChar_of_isQuadruple {first second third fourth : UInt8}
    (whole : isQuadruple first second third fourth = true) :
    String.utf8EncodeChar (charOf (first.toNat - 0xF0) [second, third, fourth]) =
      [first, second, third, fourth] := by
  obtain ⟨least, most, secondContinues, thirdContinues, fourthContinues, shortest, last⟩ :=
    isQuadruple_iff.mp whole
  have secondTail := isContinuation_iff.mp secondContinues
  have thirdTail := isContinuation_iff.mp thirdContinues
  have fourthTail := isContinuation_iff.mp fourthContinues
  have code : (charOf (first.toNat - 0xF0) [second, third, fourth]).val.toNat =
      (((first.toNat - 0xF0) * 64 + (second.toNat - 0x80)) * 64 + (third.toNat - 0x80)) * 64 +
        (fourth.toNat - 0x80) :=
    toNat_val_ofNat (by unfold Nat.isValidChar; simp only [List.foldl]; omega)
  unfold String.utf8EncodeChar
  rw [code]
  generalize sum : (((first.toNat - 0xF0) * 64 + (second.toNat - 0x80)) * 64 +
    (third.toNat - 0x80)) * 64 + (fourth.toNat - 0x80) = value
  have beyondOne : ¬ value ≤ 0x7F := by omega
  have beyondTwo : ¬ value ≤ 0x7FF := by omega
  have beyondThree : ¬ value ≤ 0xFFFF := by omega
  simp only [beyondOne, beyondTwo, beyondThree, if_false, List.cons.injEq, and_true]
  exact ⟨ofNat_eq_of_toNat (by omega), ofNat_eq_of_toNat (by omega), ofNat_eq_of_toNat (by omega),
    ofNat_eq_of_toNat (by omega)⟩

private theorem encode_cons (char : Char) (text : Text) :
    encode (char :: text) = String.utf8EncodeChar char ++ encode text := rfl

/-- What is read off bytes encodes to them. -/
theorem encode_of_decode? {bytes : List UInt8} {text : Text} (read : decode? bytes = some text) :
    encode text = bytes := by
  induction bytes using decode?.induct generalizing text with
  | case1 =>
      cases read
      rfl
  | case2 first rest ascii ih =>
      rw [decode?_of_ascii (UInt8.lt_iff_toNat_lt.mp ascii)] at read
      obtain ⟨more, readMore, rfl⟩ := Option.map_eq_some_iff.mp read
      rw [encode_cons, utf8EncodeChar_of_ascii (UInt8.lt_iff_toNat_lt.mp ascii), ih readMore]
      rfl
  | case3 first notAscii => simp [decode?, notAscii] at read
  | case4 first notAscii second rest whole ih =>
      rw [decode?_of_isPair whole] at read
      obtain ⟨more, readMore, rfl⟩ := Option.map_eq_some_iff.mp read
      rw [encode_cons, utf8EncodeChar_of_isPair whole, ih readMore]
      rfl
  | case5 first notAscii second noPair => simp [decode?, notAscii, noPair] at read
  | case6 first notAscii second noPair third rest whole ih =>
      rw [decode?_of_isTriple whole] at read
      obtain ⟨more, readMore, rfl⟩ := Option.map_eq_some_iff.mp read
      rw [encode_cons, utf8EncodeChar_of_isTriple whole, ih readMore]
      rfl
  | case7 first notAscii second noPair third noTriple =>
      simp [decode?, notAscii, noPair, noTriple] at read
  | case8 first notAscii second noPair third noTriple fourth rest whole ih =>
      rw [decode?_of_isQuadruple whole] at read
      obtain ⟨more, readMore, rfl⟩ := Option.map_eq_some_iff.mp read
      rw [encode_cons, utf8EncodeChar_of_isQuadruple whole, ih readMore]
      rfl
  | case9 first notAscii second noPair third noTriple fourth rest noQuadruple =>
      simp [decode?, notAscii, noPair, noTriple, noQuadruple] at read

/-- Bytes are read as a text exactly when they are its encoding. -/
theorem decode?_eq_some_iff {bytes : List UInt8} {text : Text} :
    decode? bytes = some text ↔ encode text = bytes :=
  ⟨encode_of_decode?, fun encoded => encoded ▸ decode?_encode text⟩

theorem decode?_eq_none_iff {bytes : List UInt8} :
    decode? bytes = none ↔ ∀ text, encode text ≠ bytes := by
  rw [Option.eq_none_iff_forall_ne_some]
  simp only [ne_eq, decode?_eq_some_iff]

end ConnectionUri.Utf8

/-!
## Faults
-/

namespace ConnectionUri.Utf8

/-- Bytes have no fault exactly when they are read. -/
theorem fault?_eq_none_iff {position : Nat} {bytes : List UInt8} :
    fault? position bytes = none ↔ ∃ text, decode? bytes = some text := by
  rw [← Option.isSome_iff_exists]
  induction bytes using decode?.induct generalizing position with
  | case1 => simp [fault?, decode?]
  | case2 first rest ascii ih =>
      rw [fault?.eq_def, decode?.eq_def]
      simp only [ascii, if_true, Option.isSome_map, ih]
  | case3 first notAscii => simp [fault?, decode?, notAscii]
  | case4 first notAscii second rest whole ih =>
      rw [fault?.eq_def, decode?.eq_def]
      simp only [notAscii, whole, if_true, if_false, Option.isSome_map, ih]
  | case5 first notAscii second noPair => simp [fault?, decode?, notAscii, noPair]
  | case6 first notAscii second noPair third rest whole ih =>
      rw [fault?.eq_def, decode?.eq_def]
      simp only [notAscii, noPair, whole, Bool.false_eq_true, if_true, if_false, Option.isSome_map,
        ih]
  | case7 first notAscii second noPair third noTriple =>
      simp [fault?, decode?, notAscii, noPair, noTriple]
  | case8 first notAscii second noPair third noTriple fourth rest whole ih =>
      rw [fault?.eq_def, decode?.eq_def]
      simp only [notAscii, noPair, noTriple, whole, Bool.false_eq_true, if_true, if_false,
        Option.isSome_map, ih]
  | case9 first notAscii second noPair third noTriple fourth rest noQuadruple =>
      simp [fault?, decode?, notAscii, noPair, noTriple, noQuadruple]

end ConnectionUri.Utf8
