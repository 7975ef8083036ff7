import ConnectionUri.Text.Numeral

/-!
# Decimal numerals

A numeral is a row of decimal digits that does not begin with a zero. `IsNumeral.decimal_decimalValue`
and `isNumeral_decimal` say that the numerals are the positive numbers written in decimal, and
`decimal_suffix` that writing the value of any digits drops leading zeros only.
-/

set_option autoImplicit false

namespace ConnectionUri.Text

/-- A positive number in decimal without leading zeros. -/
structure IsNumeral (digits : Text) : Prop where
  onlyDigits : ∀ digit ∈ digits, digit.isDigit = true
  filled : digits ≠ []
  leading : digits.head? ≠ some '0'

theorem digitChar_of_isDigit {digit : Char} (legal : digit.isDigit = true) :
    digit.toNat - 48 < 10 ∧ Nat.digitChar (digit.toNat - 48) = digit := by
  have bounds : 48 ≤ digit.toNat ∧ digit.toNat ≤ 57 := by
    simpa [Char.isDigit, Char.le_def, UInt32.le_iff_toNat_le] using legal
  have small : digit.toNat - 48 < 10 := by omega
  refine ⟨small, ?_⟩
  apply Char.toNat_inj.mp
  rw [Nat.toNat_digitChar_of_lt_ten small]
  omega

theorem decimalValue_cons (first : Char) (rest : Text) :
    decimalValue (first :: rest) =
      rest.foldl (fun value digit => 10 * value + (digit.toNat - 48)) (first.toNat - 48) := by
  rw [decimalValue, List.foldl_cons, Nat.mul_zero, Nat.zero_add]

/-- Digits after a positive number are written after it. -/
theorem decimal_foldl {digits : Text} (legal : ∀ digit ∈ digits, digit.isDigit = true) {value : Nat}
    (positive : 0 < value) :
    decimal (digits.foldl (fun value digit => 10 * value + (digit.toNat - 48)) value) =
      decimal value ++ digits := by
  induction digits generalizing value with
  | nil => rw [List.foldl_nil, List.append_nil]
  | cons digit rest ih =>
      obtain ⟨small, same⟩ := digitChar_of_isDigit (legal digit List.mem_cons_self)
      have restLegal : ∀ other ∈ rest, other.isDigit = true :=
        fun other member => legal other (List.mem_cons_of_mem digit member)
      have step : decimal (10 * value + (digit.toNat - 48)) = decimal value ++ [digit] := by
        have written := Nat.toDigits_append_toDigits (show 1 < 10 by decide) positive small
        rw [Nat.toDigits_of_lt_base small, same] at written
        exact written.symm
      rw [List.foldl_cons, ih restLegal (by omega), step, List.append_assoc, List.singleton_append]

namespace IsNumeral

variable {digits : Text}

theorem cases (numeral : IsNumeral digits) : ∃ first rest, digits = first :: rest ∧
    0 < first.toNat - 48 ∧ decimal (first.toNat - 48) = [first] ∧
      ∀ digit ∈ rest, digit.isDigit = true := by
  obtain ⟨first, rest, rfl⟩ := List.exists_cons_of_ne_nil numeral.filled
  obtain ⟨small, same⟩ := digitChar_of_isDigit (numeral.onlyDigits first List.mem_cons_self)
  refine ⟨first, rest, rfl, ?_, ?_, ?_⟩
  · apply Nat.pos_of_ne_zero
    intro zero
    rw [zero] at same
    exact numeral.leading (congrArg some same.symm)
  · rw [decimal, ofNat, Nat.toDigits_of_lt_base small, same]
  · exact fun digit member => numeral.onlyDigits digit (List.mem_cons_of_mem first member)

theorem decimal_decimalValue (numeral : IsNumeral digits) : decimal (decimalValue digits) = digits := by
  obtain ⟨first, rest, rfl, positive, single, legal⟩ := numeral.cases
  rw [decimalValue_cons, decimal_foldl legal positive, single, List.singleton_append]

theorem decimalValue_pos (numeral : IsNumeral digits) : 0 < decimalValue digits := by
  apply Nat.pos_of_ne_zero
  intro zero
  have written := numeral.decimal_decimalValue
  rw [zero] at written
  exact numeral.leading (written ▸ rfl)

end IsNumeral

theorem isNumeral_decimal {number : Nat} (positive : 0 < number) : IsNumeral (decimal number) where
  onlyDigits := fun _ member => Nat.isDigit_of_mem_toDigits (by decide) (by decide) member
  filled := Nat.toDigits_ne_nil
  leading := by
    induction number using Nat.strongRecOn with
    | ind number ih =>
        unfold decimal ofNat at ih ⊢
        by_cases small : number < 10
        · rw [Nat.toDigits_of_lt_base small, List.head?_cons, ne_eq, Option.some.injEq,
            Nat.digitChar_eq_zero]
          omega
        · have front := ih (number / 10) (by omega) (by omega)
          obtain ⟨first, more, written⟩ :=
            List.exists_cons_of_ne_nil (Nat.toDigits_ne_nil (n := number / 10) (b := 10))
          rw [Nat.toDigits_of_base_le (by decide) (by omega), written]
          rw [written] at front
          exact front

/-- The value of digits is written with the same digits, leading zeros apart. -/
theorem decimal_suffix {digits : Text} (legal : ∀ digit ∈ digits, digit.isDigit = true)
    (positive : 0 < decimalValue digits) : decimal (decimalValue digits) <:+ digits := by
  induction digits with
  | nil => cases positive
  | cons first rest ih =>
      by_cases zero : first = '0'
      · have same : decimalValue (first :: rest) = decimalValue rest := by
          rw [decimalValue_cons, zero]
          rfl
        have restLegal : ∀ digit ∈ rest, digit.isDigit = true :=
          fun digit member => legal digit (List.mem_cons_of_mem first member)
        rw [same] at positive ⊢
        exact (ih restLegal positive).trans (List.suffix_cons first rest)
      · have numeral : IsNumeral (first :: rest) :=
          ⟨legal, List.cons_ne_nil first rest, fun same => zero (Option.some.inj same)⟩
        exact ⟨[], numeral.decimal_decimalValue⟩

/-- A number has at most so many digits exactly when it is below the power of ten. -/
theorem length_decimal_le_iff {value count : Nat} (positive : 0 < count) :
    (decimal value).length ≤ count ↔ value < Nat.pow 10 count :=
  Nat.length_toDigits_le_iff (by decide) positive

end ConnectionUri.Text
