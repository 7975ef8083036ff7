import ConnectionUri.Proofs.Percent.RoundTrip
import ConnectionUri.Proofs.Uri.LegalCharacters

/-!
# Runs of ASCII characters

A text whose percent signs all start escapes fails to decode in one way only: one of its runs of
ASCII characters stands for bytes that are no UTF-8. `decode_eq_error_iff` says so with the bytes
read off each run and the encodings of texts alone.
-/

set_option autoImplicit false

namespace ConnectionUri.Percent

open Uri

/-- Whether a character is beyond ASCII. -/
def isForeign (char : Char) : Bool := 0x80 ≤ char.toNat

/-- The longest runs of ASCII characters: what stands between the characters beyond ASCII. -/
def asciiRuns (value : Text) : List Text := value.splitOnP isForeign

/-- The bytes that a text stands for: that of an escape, a space for a plus sign, and the UTF-8
bytes of any other character. -/
def formBytes : Text → List UInt8
  | [] => []
  | '%' :: high :: low :: rest => escapedByte high low :: formBytes rest
  | char :: rest => (if char = '+' then [0x20] else String.utf8EncodeChar char) ++ formBytes rest

/-- Some run of ASCII characters stands for bytes that encode no text. -/
def IllEncoded (value : Text) : Prop :=
  ∃ run ∈ asciiRuns value, ∀ text, Utf8.encode text ≠ formBytes run

theorem formBytes_cons {char : Char} (plain : char ≠ '%') (rest : Text) :
    formBytes (char :: rest) =
      (if char = '+' then [0x20] else String.utf8EncodeChar char) ++ formBytes rest := by
  rw [formBytes.eq_def]
  split
  · next same => cases same
  · next same => exact absurd (List.cons.inj same).1 plain
  · next head tail _ same =>
      obtain ⟨rfl, rfl⟩ := List.cons.inj same
      rfl

theorem asciiRuns_cons_of_foreign {char : Char} (foreign : isForeign char = true) (rest : Text) :
    asciiRuns (char :: rest) = [] :: asciiRuns rest := by
  rw [asciiRuns, List.splitOnP_cons_eq_if_modifyHead, if_pos foreign]
  rfl

theorem asciiRuns_cons_of_ascii {char : Char} (ascii : isForeign char = false) {rest first : Text}
    {more : List Text} (runs : asciiRuns rest = first :: more) :
    asciiRuns (char :: rest) = (char :: first) :: more := by
  rw [asciiRuns, List.splitOnP_cons_eq_if_modifyHead, ascii]
  rw [asciiRuns] at runs
  rw [runs]
  rfl

private theorem exists_asciiRuns (value : Text) :
    ∃ first more, asciiRuns value = first :: more :=
  List.exists_cons_of_ne_nil (List.splitOnP_ne_nil isForeign value)

private theorem isForeign_of_isHexDigit {char : Char} (digit : Text.isHexDigit char = true) :
    isForeign char = false :=
  decide_eq_false (Nat.not_le.mpr (isHexDigit_ascii digit))

private theorem ofChar_of_foreign {char : Char} (foreign : isForeign char = true) :
    Piece.ofChar char = .foreign char := by
  have beyond : ¬ char.toNat < 0x80 := Nat.not_lt.mpr (of_decide_eq_true foreign)
  have noPlus : char ≠ '+' := by
    rintro rfl
    exact beyond (by decide)
  rw [Piece.ofChar, if_neg noPlus, if_neg beyond]

private theorem ofChar_of_ascii {char : Char} (ascii : isForeign char = false) :
    ∃ byte, Piece.ofChar char = .byte byte ∧
      (if char = '+' then [0x20] else String.utf8EncodeChar char) = [byte] := by
  have within : char.toNat < 0x80 := Nat.not_le.mp (of_decide_eq_false ascii)
  by_cases plus : char = '+'
  · exact ⟨0x20, by simp [Piece.ofChar, plus], by simp [plus]⟩
  · have bytes : String.utf8EncodeChar char = [UInt8.ofNat char.toNat] :=
      if_pos (Nat.le_of_lt_succ within)
    refine ⟨UInt8.ofNat char.toNat, ?_, ?_⟩
    · rw [Piece.ofChar, if_neg plus, if_pos within]
    · rw [if_neg plus, bytes]

/-- The runs of bytes in the pieces of a text are the bytes of its runs of ASCII characters. -/
theorem runs_pieces {value : Text} (spelled : Spelled (· != '%') value) :
    (runs (pieces value)).1 :: (runs (pieces value)).2.map Prod.snd =
      (asciiRuns value).map formBytes := by
  induction spelled with
  | nil => rfl
  | @char char rest permitted _ ih =>
      have plain : char ≠ '%' := by simpa using permitted
      obtain ⟨first, more, found⟩ := exists_asciiRuns rest
      rw [found, List.map_cons, List.cons.injEq] at ih
      rw [pieces_cons plain]
      cases foreign : isForeign char with
      | true =>
          rw [ofChar_of_foreign foreign, asciiRuns_cons_of_foreign foreign, found]
          simp only [runs, List.map_cons, ih, formBytes]
      | false =>
          obtain ⟨byte, piece, bytes⟩ := ofChar_of_ascii foreign
          rw [piece, asciiRuns_cons_of_ascii foreign found]
          simp only [runs, List.map_cons, ih, formBytes_cons plain, bytes, List.singleton_append]
  | @escape high low rest highDigit lowDigit _ ih =>
      obtain ⟨first, more, found⟩ := exists_asciiRuns rest
      rw [found, List.map_cons, List.cons.injEq] at ih
      have ofLow := asciiRuns_cons_of_ascii (isForeign_of_isHexDigit lowDigit) found
      have ofHigh := asciiRuns_cons_of_ascii (isForeign_of_isHexDigit highDigit) ofLow
      have ofPercent := asciiRuns_cons_of_ascii (show isForeign '%' = false by decide) ofHigh
      rw [ofPercent]
      simp only [pieces, runs, List.map_cons, ih, formBytes]

private theorem decodeRuns?_eq_none_iff {rows : List (Char × List UInt8)} :
    decodeRuns? rows = none ↔ ∃ run ∈ rows.map Prod.snd, Utf8.decode? run = none := by
  induction rows with
  | nil => simp [decodeRuns?]
  | cons row rest ih =>
      obtain ⟨char, run⟩ := row
      simp only [List.map_cons, List.mem_cons, exists_eq_or_imp, ← ih, decodeRuns?]
      cases Utf8.decode? run with
      | none => simp
      | some text => cases decodeRuns? rest <;> simp

theorem decodePieces?_eq_none_iff {pieces : List Piece} :
    decodePieces? pieces = none ↔
      ∃ run ∈ (runs pieces).1 :: (runs pieces).2.map Prod.snd, Utf8.decode? run = none := by
  simp only [List.mem_cons, exists_eq_or_imp, ← decodeRuns?_eq_none_iff, decodePieces?]
  cases Utf8.decode? (runs pieces).1 with
  | none => simp
  | some text => cases decodeRuns? (runs pieces).2 <;> simp

theorem decodePieces?_pieces_eq_none_iff {value : Text} (spelled : Spelled (· != '%') value) :
    decodePieces? (pieces value) = none ↔ IllEncoded value := by
  rw [decodePieces?_eq_none_iff, runs_pieces spelled]
  simp only [Utf8.decode?_eq_none_iff]
  constructor
  · intro ⟨bytes, member, unread⟩
    obtain ⟨run, inside, rfl⟩ := List.mem_map.mp member
    exact ⟨run, inside, unread⟩
  · intro ⟨run, inside, unread⟩
    exact ⟨formBytes run, List.mem_map_of_mem inside, unread⟩

/-- A text whose percent signs all start escapes fails to decode exactly when a run of ASCII
characters stands for no UTF-8. -/
theorem decode_eq_error_iff {value : Text} {error : DecodingError}
    (spelled : Spelled (· != '%') value) :
    decode value = .error error ↔ error = .notUtf8 value ∧ IllEncoded value := by
  rw [← decodePieces?_pieces_eq_none_iff spelled, decode, strayPercent?_eq_none_iff.mpr spelled]
  cases decodePieces? (pieces value) with
  | none => simp [eq_comm]
  | some text => simp

theorem exists_decode_iff {value : Text} (spelled : Spelled (· != '%') value) :
    (∃ text, decode value = .ok text) ↔ ¬ IllEncoded value := by
  cases decoded : decode value with
  | ok text =>
      have whole : ¬ IllEncoded value := by
        intro broken
        rw [(decode_eq_error_iff spelled).mpr ⟨rfl, broken⟩] at decoded
        cases decoded
      exact ⟨fun _ => whole, fun _ => ⟨text, rfl⟩⟩
  | error error =>
      have broken := ((decode_eq_error_iff spelled).mp decoded).2
      simp [broken]

end ConnectionUri.Percent
