import ConnectionUri.Percent.Decode
import ConnectionUri.Percent.Encode
import ConnectionUri.Proofs.Percent.Utf8
import ConnectionUri.Proofs.Uri.Grammar

/-!
# Form encodings

`Encodes text value` relates a text to each of its form encodings. Every character is written in a
way of its own: as it is, as a plus sign, or by the escapes of its bytes. `Encodes.decode` reads
each encoding back, and `encodes_encode` says that percent encoding gives one of them.
-/

set_option autoImplicit false

/-!
## Percent signs
-/

namespace ConnectionUri.Percent

open Uri

theorem strayPercent?_cons {char : Char} (plain : char ≠ '%') (rest : Text) :
    strayPercent? (char :: rest) = (strayPercent? rest).map (· + 1) := by
  rw [strayPercent?.eq_def]
  split
  · next same => cases same
  · next same => exact absurd (List.cons.inj same).1 plain
  · next head tail _ same =>
      obtain ⟨rfl, rfl⟩ := List.cons.inj same
      rw [if_neg plain]

theorem pieces_cons {char : Char} (plain : char ≠ '%') (rest : Text) :
    pieces (char :: rest) = .ofChar char :: pieces rest := by
  rw [pieces.eq_def]
  split
  · next same => cases same
  · next same => exact absurd (List.cons.inj same).1 plain
  · next head tail _ same =>
      obtain ⟨rfl, rfl⟩ := List.cons.inj same
      rfl

/-- No percent sign is stray exactly when each one starts an escape. -/
theorem strayPercent?_eq_none_iff {value : Text} :
    strayPercent? value = none ↔ Spelled (· != '%') value := by
  constructor
  · intro whole
    induction value using strayPercent?.induct with
    | case1 => exact .nil
    | case2 high low rest digits ih =>
        simp only [strayPercent?, digits, if_true, Option.map_eq_none_iff] at whole
        simp only [Bool.and_eq_true] at digits
        exact .escape digits.1 digits.2 (ih whole)
    | case3 high low rest noDigits => simp [strayPercent?, noDigits] at whole
    | case4 rest noEscape =>
        rw [strayPercent?.eq_3 _ _ noEscape] at whole
        simp at whole
    | case5 char rest noEscape plain ih =>
        rw [strayPercent?_cons plain, Option.map_eq_none_iff] at whole
        exact .char (by simpa using plain) (ih whole)
  · intro spelled
    induction spelled with
    | nil => rfl
    | char permitted _ ih => rw [strayPercent?_cons (by simpa using permitted), ih, Option.map_none]
    | escape high low _ ih => simp [strayPercent?, high, low, ih]

end ConnectionUri.Percent

/-!
## Pieces
-/

namespace ConnectionUri.Percent

private theorem runs_bytes_append (bytes : List UInt8) (rest : List Piece) :
    runs (bytes.map .byte ++ rest) = (bytes ++ (runs rest).1, (runs rest).2) := by
  induction bytes with
  | nil => rfl
  | cons byte bytes ih => simp only [List.map_cons, List.cons_append, runs, ih]

/-- The bytes of a character are read as that character, whatever pieces follow. -/
theorem decodePieces?_utf8EncodeChar (char : Char) (rest : List Piece) :
    decodePieces? ((String.utf8EncodeChar char).map .byte ++ rest) =
      (decodePieces? rest).map (char :: ·) := by
  unfold decodePieces?
  rw [runs_bytes_append, Utf8.decode?_utf8EncodeChar_append]
  cases Utf8.decode? (runs rest).1 with
  | none => rfl
  | some text => cases decodeRuns? (runs rest).2 <;> rfl

/-- A character beyond ASCII stands for itself, whatever pieces follow. -/
theorem decodePieces?_foreign (char : Char) (rest : List Piece) :
    decodePieces? (.foreign char :: rest) = (decodePieces? rest).map (char :: ·) := by
  simp only [decodePieces?, runs, Utf8.decode?, decodeRuns?]
  cases Utf8.decode? (runs rest).1 with
  | none => rfl
  | some text => cases decodeRuns? (runs rest).2 <;> rfl

theorem decodePieces?_ofChar {char : Char} (plain : char ≠ '+') (rest : List Piece) :
    decodePieces? (.ofChar char :: rest) = (decodePieces? rest).map (char :: ·) := by
  by_cases ascii : char.toNat < 0x80
  · have bytes : String.utf8EncodeChar char = [UInt8.ofNat char.toNat] :=
      if_pos (Nat.le_of_lt_succ ascii)
    have read := decodePieces?_utf8EncodeChar char rest
    rw [bytes] at read
    simpa [Piece.ofChar, plain, ascii] using read
  · simpa [Piece.ofChar, plain, ascii] using decodePieces?_foreign char rest

end ConnectionUri.Percent

/-!
## Encodings
-/

namespace ConnectionUri.Percent

open Uri

/-- The texts that escape the given bytes one by one, with digits of either case. -/
inductive Escapes : List UInt8 → Text → Prop where
  | nil : Escapes [] []
  | cons {high low : Char} {bytes : List UInt8} {value : Text} :
      Text.isHexDigit high = true → Text.isHexDigit low = true → Escapes bytes value →
      Escapes (escapedByte high low :: bytes) ('%' :: high :: low :: value)

/-- The form encodings of a text, each of its characters being written in any of its ways. -/
inductive Encodes : Text → Text → Prop where
  | nil : Encodes [] []
  | literal {char : Char} {text value : Text} :
      char ≠ '%' → char ≠ '+' → Encodes text value → Encodes (char :: text) (char :: value)
  | plus {text value : Text} : Encodes text value → Encodes (' ' :: text) ('+' :: value)
  | escaped {char : Char} {text escapes value : Text} :
      Escapes (String.utf8EncodeChar char) escapes → Encodes text value →
      Encodes (char :: text) (escapes ++ value)

theorem Escapes.spelled {bytes : List UInt8} {value : Text} (escapes : Escapes bytes value)
    (allowed : Char → Bool) : Spelled allowed value := by
  induction escapes with
  | nil => exact .nil
  | cons high low _ ih => exact .escape high low ih

theorem Escapes.pieces_append {bytes : List UInt8} {value : Text} (escapes : Escapes bytes value)
    (rest : Text) : pieces (value ++ rest) = bytes.map .byte ++ pieces rest := by
  induction escapes with
  | nil => rfl
  | cons _ _ _ ih => simp only [List.cons_append, List.map_cons, pieces, ih]

namespace Encodes

variable {text value : Text}

theorem spelled (encodes : Encodes text value) : Spelled (· != '%') value := by
  induction encodes with
  | nil => exact .nil
  | literal plain _ _ ih => exact .char (by simpa using plain) ih
  | plus _ ih => exact .char (by decide) ih
  | escaped escapes _ ih => exact (escapes.spelled _).append ih

theorem decodePieces? (encodes : Encodes text value) :
    decodePieces? (pieces value) = some text := by
  induction encodes with
  | nil => rfl
  | literal noPercent noPlus _ ih =>
      rw [pieces_cons noPercent, decodePieces?_ofChar noPlus, ih, Option.map_some]
  | @plus text value _ ih =>
      have space : Piece.ofChar '+' :: pieces value =
          (String.utf8EncodeChar ' ').map .byte ++ pieces value := rfl
      rw [pieces_cons (by decide), space, decodePieces?_utf8EncodeChar, ih, Option.map_some]
  | escaped escapes _ ih =>
      rw [escapes.pieces_append, decodePieces?_utf8EncodeChar, ih, Option.map_some]

/-- Every encoding of a text decodes to it. -/
theorem decode (encodes : Encodes text value) : decode value = .ok text := by
  simp only [Percent.decode, strayPercent?_eq_none_iff.mpr encodes.spelled, encodes.decodePieces?]

end Encodes

end ConnectionUri.Percent

/-!
## Percent encoding
-/

namespace ConnectionUri.Percent

open Uri

private theorem hexValue?_upperHexDigit :
    ∀ value, value < 16 → Text.hexValue? (upperHexDigit value) = some value := by
  decide

theorem escapes_escape (bytes : List UInt8) : Escapes bytes (bytes.flatMap escape) := by
  induction bytes with
  | nil => exact .nil
  | cons byte bytes ih =>
      have bounded := byte.toNat_lt
      have high := hexValue?_upperHexDigit (byte.toNat / 16) (by omega)
      have low := hexValue?_upperHexDigit (byte.toNat % 16) (by omega)
      have same : escapedByte (upperHexDigit (byte.toNat / 16)) (upperHexDigit (byte.toNat % 16)) =
          byte := by
        simp only [escapedByte, high, low, Option.getD_some, Nat.div_add_mod, UInt8.ofNat_toNat]
      have escapes : Escapes _ ('%' :: upperHexDigit (byte.toNat / 16) ::
          upperHexDigit (byte.toNat % 16) :: bytes.flatMap escape) :=
        .cons (by rw [Text.isHexDigit, high]; rfl) (by rw [Text.isHexDigit, low]; rfl) ih
      rwa [same] at escapes

/-- Percent encoding is one of the form encodings. -/
theorem encodes_encode (text : Text) : Encodes text (encode text) := by
  induction text with
  | nil => exact .nil
  | cons char rest ih =>
      rw [encode, List.flatMap_cons, encodeChar]
      split
      · next safe =>
          have noPercent : char ≠ '%' := by
            rintro rfl
            revert safe
            decide
          have noPlus : char ≠ '+' := by
            rintro rfl
            revert safe
            decide
          exact .literal noPercent noPlus ih
      · exact .escaped (escapes_escape _) ih

theorem decode_encode (text : Text) : decode (encode text) = .ok text :=
  (encodes_encode text).decode

/-- An encoded text is spelled with safe characters and escapes. -/
theorem spelled_encode (text : Text) : Spelled isSafe (encode text) := by
  induction text with
  | nil => exact .nil
  | cons char rest ih =>
      rw [encode, List.flatMap_cons, encodeChar]
      split
      · next safe => exact .char safe ih
      · exact ((escapes_escape _).spelled _).append ih

theorem isNameChar_of_isSafe {char : Char} (safe : isSafe char = true) :
    isNameChar char = true := by
  simp only [isNameChar, isUnreserved]
  rw [isSafe] at safe
  rw [safe]
  rfl

end ConnectionUri.Percent
