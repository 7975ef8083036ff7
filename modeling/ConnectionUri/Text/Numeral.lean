import ConnectionUri.Text.Basic

/-!
# Numerals

Natural numbers and integers written in a base, and the value of a row of decimal digits.
-/

set_option autoImplicit false

namespace ConnectionUri.Text

def hexValue? (char : Char) : Option Nat :=
  if '0' ≤ char ∧ char ≤ '9' then some (char.toNat - 48)
  else if 'a' ≤ char ∧ char ≤ 'f' then some (char.toNat - 87)
  else if 'A' ≤ char ∧ char ≤ 'F' then some (char.toNat - 55)
  else none

def isHexDigit (char : Char) : Bool := (hexValue? char).isSome

/-- The value of a row of decimal digits, most significant first. -/
def decimalValue (digits : Text) : Nat :=
  digits.foldl (fun value digit => 10 * value + (digit.toNat - 48)) 0

/-- The greatest number of digits that are converted to an integer, leading zeros included. -/
def digitLimit : Nat := 4300

def ofNat (base : Nat) (value : Nat) : Text := Nat.toDigits base value

/-- A natural number in decimal, without leading zeros. -/
def decimal (value : Nat) : Text := ofNat 10 value

/-- The wording of a row of digits that is too long to be converted. -/
def digitLimitMessage (digits : Nat) : Text :=
  "Exceeds the limit (".toList ++ decimal digitLimit ++
    " digits) for integer string conversion: value has ".toList ++ decimal digits ++
    " digits; use sys.set_int_max_str_digits() to increase the limit".toList

/-- An integer in decimal, with a minus sign before a negative one. -/
def ofInt : Int → Text
  | .ofNat value => decimal value
  | .negSucc value => '-' :: decimal (value + 1)

/-- A natural number in lower-case hexadecimal with at least `width` digits. -/
def hexPadded (width value : Nat) : Text := padLeft '0' width (ofNat 16 value)

end ConnectionUri.Text
