import ConnectionUri.Text.Numeral

/-!
# Double-precision numbers

A finite number is a sign, a significand and a power of two, so every operation on it is exact
arithmetic on natural numbers. A decimal is read as the nearest double; a tie goes to the even
significand.
-/

set_option autoImplicit false

namespace ConnectionUri

/-- A double-precision number; a finite one is `significand * 2 ^ exponent` with a sign. -/
inductive Binary64 where
  | finite (negative : Bool) (significand : Nat) (exponent : Int)
  | infinite (negative : Bool)
  | notANumber
  deriving DecidableEq

namespace Binary64

/-- The quotient rounded to the nearest integer; a tie goes to the even one. -/
def roundedQuotient (numerator denominator : Nat) : Nat :=
  let quotient := numerator / denominator
  let twice := 2 * (numerator % denominator)
  if twice > denominator ∨ (twice = denominator ∧ quotient % 2 = 1) then quotient + 1 else quotient

/-- The fraction `value * base ^ power`. -/
def scaled (base value : Nat) : Int → Nat × Nat
  | .ofNat power => (value * base.pow power, 1)
  | .negSucc power => (value, base.pow (power + 1))

/-- The least exponent of a double. -/
def leastExponent : Int := -1074

/-- The double nearest to a positive fraction. -/
def ofFraction (negative : Bool) (numerator denominator : Nat) : Binary64 :=
  let guess : Int := Int.ofNat numerator.log2 - Int.ofNat denominator.log2 - 52
  let significandAt (exponent : Int) : Nat :=
    match exponent with
    | .ofNat power => roundedQuotient numerator (denominator * Nat.pow 2 power)
    | .negSucc power => roundedQuotient (numerator * Nat.pow 2 (power + 1)) denominator
  let floorAt (exponent : Int) : Nat :=
    match exponent with
    | .ofNat power => numerator / (denominator * Nat.pow 2 power)
    | .negSucc power => numerator * Nat.pow 2 (power + 1) / denominator
  let exponent := if floorAt guess < Nat.pow 2 52 then guess - 1 else guess
  let exponent := max exponent leastExponent
  let significand := significandAt exponent
  let (significand, exponent) :=
    if significand = Nat.pow 2 53 then (Nat.pow 2 52, exponent + 1) else (significand, exponent)
  if exponent > 971 then .infinite negative else .finite negative significand exponent

/-- The double nearest to `digits * 10 ^ power`. A power far outside the range of doubles is
decided without computing it. -/
def ofDecimal (negative : Bool) (digits : Nat) (power : Int) : Binary64 :=
  if digits = 0 then .finite negative 0 leastExponent
  else
    let magnitude := power + Int.ofNat (Nat.toDigits 10 digits).length
    if magnitude > 400 then .infinite negative
    else if magnitude < -400 then .finite negative 0 leastExponent
    else
      let (numerator, denominator) := scaled 10 digits power
      ofFraction negative numerator denominator

def ofInt (value : Int) : Binary64 := ofDecimal (value < 0) value.natAbs 0

/-- The absolute value of a finite double as a fraction. -/
def fraction (significand : Nat) (exponent : Int) : Nat × Nat := scaled 2 significand exponent

/-- Whether the number is an integer of the given value; both zeros have the value zero. -/
def isInteger (value : Int) : Binary64 → Bool
  | .finite negative significand exponent =>
    let (numerator, denominator) := fraction significand exponent
    value.natAbs * denominator == numerator && (value == 0 || decide (value < 0) == negative)
  | _ => false

/-- The integer part of a finite double. -/
def truncated? : Binary64 → Option Int
  | .finite negative significand exponent =>
    let (numerator, denominator) := fraction significand exponent
    let size := Int.ofNat (numerator / denominator)
    some (if negative then -size else size)
  | _ => none

/-- The integer that a double is equal to, if it is equal to one. -/
def integer? : Binary64 → Option Int
  | .finite negative significand exponent =>
    let (numerator, denominator) := fraction significand exponent
    if numerator % denominator = 0 then truncated? (.finite negative significand exponent) else none
  | _ => none

end Binary64

end ConnectionUri
