import ConnectionUri.Proofs.Percent.WholeText

/-!
# Decoding and form encodings

The form encodings of a text are all the texts that decode to it. A byte that continues a sequence is
written by an escape only, so the bytes of a decoded text can be told apart again: those of one
character are its escapes, or it was written as it is or as a plus sign.
-/

set_option autoImplicit false

/-!
## Characters and escapes told apart
-/

namespace ConnectionUri.Percent

open Uri

theorem decode_eq_ok_iff {text value : Text} :
    decode value = .ok text ↔
      Spelled (· != '%') value ∧ Utf8.encode text = formBytes value := by
  rw [← strayPercent?_eq_none_iff, ← Utf8.decode?_eq_some_iff, decode, formBytes_eq_flatMap,
    ← decodePieces?_eq_decode?]
  cases strayPercent? value with
  | some index => simp
  | none => cases decodePieces? (pieces value) <;> simp

/-- The character that stands behind one written without an escape. -/
private def meant (char : Char) : Char := if char = '+' then ' ' else char

private theorem formBytes_cons_meant {char : Char} (plain : char ≠ '%') (rest : Text) :
    formBytes (char :: rest) = String.utf8EncodeChar (meant char) ++ formBytes rest := by
  rw [formBytes_cons plain, meant]
  split
  · rfl
  · rfl

private theorem encodes_meant {char : Char} {text value : Text} (plain : char ≠ '%')
    (encodes : Encodes text value) : Encodes (meant char :: text) (char :: value) := by
  unfold meant
  split
  · next plus => exact plus ▸ .plus encodes
  · next noPlus => exact .literal plain noPlus encodes

/-- Bytes that continue a sequence are read off escapes. -/
private theorem exists_escapes {bytes back : List UInt8} {value : Text}
    (spelled : Spelled (· != '%') value) (continues : ∀ byte ∈ bytes, ¬ byte.IsUTF8FirstByte)
    (written : formBytes value = bytes ++ back) :
    ∃ escapes rest, value = escapes ++ rest ∧ Escapes bytes escapes ∧
      Spelled (· != '%') rest ∧ formBytes rest = back := by
  induction bytes generalizing value with
  | nil => exact ⟨[], value, rfl, .nil, spelled, written⟩
  | cons byte bytes ih =>
      cases spelled with
      | nil => cases written
      | @char char rest permitted spelled =>
          -- A character begins with a byte that continues nothing.
          obtain ⟨first, more, shape, begins⟩ := Utf8.exists_utf8EncodeChar_eq_cons (meant char)
          rw [formBytes_cons_meant (by simpa using permitted), shape] at written
          obtain ⟨same, -⟩ := List.cons.inj written
          exact absurd (same ▸ begins) (continues byte List.mem_cons_self)
      | @escape high low rest highDigit lowDigit spelled =>
          obtain ⟨same, later⟩ := List.cons.inj written
          obtain ⟨escapes, behind, rfl, whole, restSpelled, restWritten⟩ :=
            ih spelled (fun other member => continues other (List.mem_cons_of_mem byte member)) later
          exact ⟨'%' :: high :: low :: escapes, behind, rfl, same ▸ .cons highDigit lowDigit whole,
            restSpelled, restWritten⟩

theorem not_isUTF8FirstByte_of_mem_tail {char : Char} {first byte : UInt8} {more : List UInt8}
    (shape : String.utf8EncodeChar char = first :: more) (member : byte ∈ more) :
    ¬ byte.IsUTF8FirstByte := by
  intro begins
  obtain ⟨front, back, rfl⟩ := List.append_of_mem member
  have atFront : first :: front = [] := Utf8.eq_nil_of_isUTF8FirstByte begins shape
  cases atFront

end ConnectionUri.Percent

/-!
## Encodings of decoded texts
-/

namespace ConnectionUri.Percent

open Uri

theorem encodes_of_formBytes {text value : Text} (spelled : Spelled (· != '%') value)
    (written : Utf8.encode text = formBytes value) : Encodes text value := by
  induction text generalizing value with
  | nil =>
      cases spelled with
      | nil => exact .nil
      | @char char rest permitted _ =>
          rw [formBytes_cons_meant (by simpa using permitted)] at written
          obtain ⟨none, -⟩ := List.append_eq_nil_iff.mp written.symm
          exact absurd none String.utf8EncodeChar_ne_nil
      | escape _ _ _ => cases written
  | cons letter text ih =>
      have encoded : String.utf8EncodeChar letter ++ Utf8.encode text = formBytes value := written
      cases spelled with
      | nil =>
          obtain ⟨none, -⟩ := List.append_eq_nil_iff.mp encoded
          exact absurd none String.utf8EncodeChar_ne_nil
      | @char char rest permitted spelled =>
          have plain : char ≠ '%' := by simpa using permitted
          have read := Utf8.decode?_eq_some_iff.mpr written
          rw [formBytes_cons_meant plain, Utf8.decode?_utf8EncodeChar_append] at read
          obtain ⟨more, readMore, same⟩ := Option.map_eq_some_iff.mp read
          obtain ⟨rfl, rfl⟩ := List.cons.inj same
          exact encodes_meant plain (ih spelled (Utf8.decode?_eq_some_iff.mp readMore))
      | @escape high low rest highDigit lowDigit spelled =>
          obtain ⟨first, more, shape, -⟩ := Utf8.exists_utf8EncodeChar_eq_cons letter
          rw [shape] at encoded
          obtain ⟨same, later⟩ := List.cons.inj encoded
          obtain ⟨escapes, behind, rfl, whole, restSpelled, restWritten⟩ := exists_escapes spelled
            (fun _ member => not_isUTF8FirstByte_of_mem_tail shape member) later.symm
          have ofLetter : Escapes (String.utf8EncodeChar letter) ('%' :: high :: low :: escapes) := by
            rw [shape, same]
            exact .cons highDigit lowDigit whole
          exact .escaped ofLetter (ih restSpelled restWritten.symm)

theorem encodes_of_decode {text value : Text} (decoded : decode value = .ok text) :
    Encodes text value := by
  obtain ⟨spelled, written⟩ := decode_eq_ok_iff.mp decoded
  exact encodes_of_formBytes spelled written

/-- Without an escape a text stands for itself or for a text with a blank. -/
theorem Encodes.eq_or_blank_mem {text value : Text} (encodes : Encodes text value)
    (plain : '%' ∉ value) : text = value ∧ '+' ∉ value ∨ ' ' ∈ text := by
  induction encodes with
  | nil => exact .inl ⟨rfl, List.not_mem_nil⟩
  | literal _ noPlus _ ih =>
      rcases ih (fun percent => plain (List.mem_cons_of_mem _ percent)) with ⟨rfl, absent⟩ | blank
      · exact .inl ⟨rfl, List.not_mem_cons_of_ne_of_not_mem noPlus.symm absent⟩
      · exact .inr (List.mem_cons_of_mem _ blank)
  | plus _ _ => exact .inr List.mem_cons_self
  | escaped escapes _ _ =>
      obtain ⟨first, more, shape, -⟩ := Utf8.exists_utf8EncodeChar_eq_cons _
      rw [shape] at escapes
      cases escapes with
      | cons _ _ _ => exact absurd List.mem_cons_self plain

/-- A text decodes to the texts that it is a form encoding of and to no others. What was decoded is not
decoded again: a form encoding of an encoded text gives that encoded text. -/
theorem decode_ok_iff_encodes (text value : Text) :
    (decode value = .ok text ↔ Encodes text value) ∧
      ∀ twice, Encodes value twice → decode twice = .ok value := by
  refine ⟨⟨encodes_of_decode, fun encodes => encodes.decode⟩, ?_⟩
  intro twice encodes
  exact encodes.decode

/-- A decoded percent sign before two digits stays, and so does a decoded plus sign. -/
theorem decode_keeps_decoded_signs :
    Encodes "%41+ éé".toList "%2541%2b+%c3%A9é".toList ∧
      decode "%2541%2b+%c3%A9é".toList = .ok "%41+ éé".toList ∧
      Encodes "%2541%2b+%c3%A9é".toList (encode "%2541%2b+%c3%A9é".toList) ∧
      decode (encode "%2541%2b+%c3%A9é".toList) = .ok "%2541%2b+%c3%A9é".toList := by
  obtain ⟨inverse, once⟩ := decode_ok_iff_encodes "%41+ éé".toList "%2541%2b+%c3%A9é".toList
  have spelled : Spelled (· != '%') "%2541%2b+%c3%A9é".toList :=
    (isSpelled_iff (by decide)).mp (by decide)
  have encodes : Encodes "%41+ éé".toList "%2541%2b+%c3%A9é".toList :=
    encodes_of_formBytes spelled (by decide)
  have twice := encodes_encode "%2541%2b+%c3%A9é".toList
  exact ⟨encodes, inverse.mpr encodes, twice, once _ twice⟩

end ConnectionUri.Percent
