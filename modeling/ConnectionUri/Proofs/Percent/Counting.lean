import ConnectionUri.Proofs.Percent.Inversion
import ConnectionUri.Proofs.Uri.LegalCharacters

/-!
# Characters counted before and after decoding

Decoding takes away as many counted characters as there were percent signs, and more. This holds for
the characters of a text altogether, and for those that can be a question mark or a percent sign in
the end: these two, and the digits that their escapes begin with.
-/

set_option autoImplicit false

/-!
## Counted classes
-/

namespace ConnectionUri.Percent

/-- A class of characters that decoding makes fewer. -/
structure Shrinks (counted : Char → Bool) : Prop where
  percent : counted '%' = true
  blank : counted ' ' = true → counted '+' = true
  escaped : ∀ char escapes, counted char = true → Escapes (String.utf8EncodeChar char) escapes →
    escapes.count '%' < escapes.countP counted

namespace Shrinks

variable {counted : Char → Bool} {text value : Text}

theorem count_percent_le (shrinks : Shrinks counted) (value : Text) :
    value.count '%' ≤ value.countP counted := by
  apply List.countP_mono_left
  intro char _ percent
  rw [eq_of_beq percent]
  exact shrinks.percent

/-- Every escape of an encoded text is one counted character that the text does not have. -/
theorem countP_add_count_le (shrinks : Shrinks counted) (encodes : Encodes text value) :
    text.countP counted + value.count '%' ≤ value.countP counted := by
  induction encodes with
  | nil => exact Nat.le_refl 0
  | literal plain _ _ ih =>
      rw [List.countP_cons, List.countP_cons, List.count_cons_of_ne plain]
      omega
  | @plus text value _ ih =>
      have kept : (if counted ' ' then 1 else 0) ≤ if counted '+' then 1 else 0 := by
        by_cases blank : counted ' ' = true
        · exact Nat.le_of_eq (by rw [if_pos blank, if_pos (shrinks.blank blank)])
        · rw [if_neg blank]
          exact Nat.zero_le _
      rw [List.countP_cons, List.countP_cons, List.count_cons_of_ne (by decide)]
      omega
  | @escaped char text escapes value whole _ ih =>
      have fewer : (if counted char then 1 else 0) + escapes.count '%' ≤ escapes.countP counted := by
        by_cases member : counted char = true
        · rw [if_pos member, Nat.add_comm]
          exact shrinks.escaped char escapes member whole
        · rw [if_neg member, Nat.zero_add]
          exact shrinks.count_percent_le escapes
      rw [List.countP_cons, List.countP_append, List.count_append]
      omega

theorem countP_decode_le (shrinks : Shrinks counted) (decoded : decode value = .ok text) :
    text.countP counted + value.count '%' ≤ value.countP counted :=
  shrinks.countP_add_count_le (encodes_of_decode decoded)

end Shrinks

end ConnectionUri.Percent

/-!
## All characters, and the characters of signs
-/

namespace ConnectionUri.Percent

theorem Escapes.count_percent {bytes : List UInt8} {value : Text} (escapes : Escapes bytes value) :
    value.count '%' = bytes.length ∧ value.length = 3 * bytes.length := by
  induction escapes with
  | nil => exact ⟨rfl, rfl⟩
  | cons high low _ ih =>
      have noHigh := ne_percent_of_isHexDigit high
      have noLow := ne_percent_of_isHexDigit low
      rw [List.count_cons_self, List.count_cons_of_ne noHigh, List.count_cons_of_ne noLow]
      simp only [List.length_cons]
      omega

theorem shrinks_all : Shrinks fun _ => true where
  percent := rfl
  blank := fun _ => rfl
  escaped := by
    intro char escapes _ whole
    have filled := List.length_pos_iff.mpr (String.utf8EncodeChar_ne_nil (c := char))
    obtain ⟨percents, length⟩ := whole.count_percent
    rw [List.countP_true]
    omega

/-- Whether a character is a percent sign, a question mark, or a digit that the escape of one of
these four begins with. -/
def isSign (char : Char) : Bool := ['%', '?', '2', '3'].contains char

def signs (text : Text) : Nat := text.countP isSign

private def digitValue (char : Char) : Nat := (Text.hexValue? char).getD 0

private theorem digitValue_lt {char : Char} (digit : Text.isHexDigit char = true) :
    digitValue char < 16 :=
  Text.forall_ascii (motive := fun char => Text.isHexDigit char = true → digitValue char < 16)
    (by decide +kernel) char (Uri.isHexDigit_ascii digit) digit

private theorem isSign_of_digitValue {char : Char} (digit : Text.isHexDigit char = true)
    (range : digitValue char = 2 ∨ digitValue char = 3) : isSign char = true :=
  Text.forall_ascii (motive := fun char =>
      digitValue char = 2 ∨ digitValue char = 3 → isSign char = true)
    (by decide +kernel) char (Uri.isHexDigit_ascii digit) range

/-- The escape of a sign begins with a digit that is a sign. -/
private theorem isSign_of_escapedByte {high low : Char} (highDigit : Text.isHexDigit high = true)
    (lowDigit : Text.isHexDigit low = true)
    (range : 32 ≤ (escapedByte high low).toNat ∧ (escapedByte high low).toNat < 64) :
    isSign high = true := by
  have highBound := digitValue_lt highDigit
  have lowBound := digitValue_lt lowDigit
  have value : (escapedByte high low).toNat = (16 * digitValue high + digitValue low) % 256 :=
    UInt8.toNat_ofNat'
  exact isSign_of_digitValue highDigit (by omega)

theorem Escapes.of_single {byte : UInt8} {value : Text} (escapes : Escapes [byte] value) :
    ∃ high low, value = ['%', high, low] ∧ Text.isHexDigit high = true ∧
      Text.isHexDigit low = true ∧ escapedByte high low = byte := by
  cases escapes with
  | @cons high low _ _ highDigit lowDigit rest =>
      cases rest with
      | nil => exact ⟨high, low, rfl, highDigit, lowDigit, rfl⟩

theorem exists_byte_of_isSign {char : Char} (sign : isSign char = true) :
    ∃ byte, String.utf8EncodeChar char = [byte] ∧ 32 ≤ byte.toNat ∧ byte.toNat < 64 := by
  simp only [isSign, List.contains_cons, Bool.or_eq_true, beq_iff_eq, List.contains_nil,
    Bool.false_eq_true, or_false] at sign
  rcases sign with rfl | rfl | rfl | rfl <;> exact ⟨_, rfl, by decide, by decide⟩

theorem shrinks_signs : Shrinks isSign where
  percent := rfl
  blank := by decide
  escaped := by
    intro char escapes sign whole
    obtain ⟨byte, shape, range⟩ := exists_byte_of_isSign sign
    rw [shape] at whole
    obtain ⟨high, low, rfl, highDigit, lowDigit, rfl⟩ := whole.of_single
    have highSign := isSign_of_escapedByte highDigit lowDigit range
    have percentSign : isSign '%' = true := rfl
    have single : ['%', high, low].count '%' = 1 := by
      rw [List.count_cons_self, List.count_cons_of_ne (ne_percent_of_isHexDigit highDigit),
        List.count_cons_of_ne (ne_percent_of_isHexDigit lowDigit)]
      rfl
    rw [single, List.countP_cons, List.countP_cons, if_pos highSign, if_pos percentSign]
    omega

end ConnectionUri.Percent
