import ConnectionUri.Number.Binary64

/-!
# Decimal texts of doubles

A double is written as the shortest decimal that reads back, with a fixed number of places, or as a
mantissa with an exponent of ten. Of two shortest decimals the nearer one is taken; places are
rounded on the exact value, and a tie goes to the even digit.
-/

set_option autoImplicit false

namespace ConnectionUri.Binary64

def leadingPower (numerator denominator : Nat) : Int :=
  let guess : Int :=
    Int.ofNat (Nat.toDigits 10 numerator).length - Int.ofNat (Nat.toDigits 10 denominator).length
  let (top, bottom) := scaled 10 denominator guess
  if numerator * bottom < top then guess - 1 else guess

/-- Digits that are a power of ten too many, as the digit one with the next power of ten. -/
def carried (count digits : Nat) (power : Int) : Nat × Int :=
  if digits = Nat.pow 10 count then (Nat.pow 10 (count - 1), power + 1) else (digits, power)

/-- Rounds a positive fraction to a number of significant digits; answers the digits as a number
and the power of ten of the leading one. -/
def roundedDigits (count numerator denominator : Nat) : Nat × Int :=
  let power := leadingPower numerator denominator
  let (top, bottom) := scaled 10 1 (Int.ofNat count - 1 - power)
  carried count (roundedQuotient (numerator * top) (denominator * bottom)) power

/-- The decimal of a number of significant digits that reads back as the double, the nearer of the
two neighbours first. -/
def readableDigits? (target : Binary64) (numerator denominator count : Nat) : Option (Nat × Int) :=
  let power := leadingPower numerator denominator
  let (top, bottom) := scaled 10 1 (Int.ofNat count - 1 - power)
  let below := numerator * top / (denominator * bottom)
  let nearer := roundedQuotient (numerator * top) (denominator * bottom)
  let farther := if nearer = below then below + 1 else below
  ([nearer, farther].find? fun digits =>
    ofDecimal false digits (power + 1 - Int.ofNat count) == target).map fun digits =>
      carried count digits power

/-- The first decimal that reads back, from `count` significant digits on and with at most `fuel`
more of them. -/
def shortestFrom (target : Binary64) (numerator denominator : Nat) : Nat → Nat → Nat × Int
  | 0, count => roundedDigits count numerator denominator
  | fuel + 1, count =>
    match readableDigits? target numerator denominator count with
    | some found => found
    | none => shortestFrom target numerator denominator fuel (count + 1)

/-- The fewest significant digits that read back as the double, and the power of ten of the first. -/
def shortestDigits (significand : Nat) (exponent : Int) : Text × Int :=
  let (numerator, denominator) := fraction significand exponent
  let (digits, power) :=
    shortestFrom (.finite false significand exponent) numerator denominator 16 1
  (Text.decimal digits, power)

/-- An exponent of ten with its sign and at least two digits. -/
def exponentText (power : Int) : Text :=
  (if power < 0 then '-' else '+') :: Text.padLeft '0' 2 (Text.decimal power.natAbs)

/-- The digits with a point after the first `whole` ones; zeros are put in where digits are missing. -/
def pointed (digits : Text) (whole : Int) : Text × Text :=
  match whole with
  | .ofNat count =>
    if count = 0 then (['0'], digits)
    else (Text.padRight '0' count (digits.take count), digits.drop count)
  | .negSucc count => (['0'], List.replicate (count + 1) '0' ++ digits)

/-- The sign, if there is one, before a written number. -/
def signed (negative : Bool) (text : Text) : Text := if negative then '-' :: text else text

/-- The shortest text that reads back: positional from `1e-4` to below `1e16`, with at least one
place after the point, and scientific elsewhere. -/
def text : Binary64 → Text
  | .notANumber => "nan".toList
  | .infinite negative => signed negative "inf".toList
  | .finite negative significand exponent => signed negative <|
    if significand = 0 then "0.0".toList
    else
      let (digits, power) := shortestDigits significand exponent
      if -4 ≤ power ∧ power < 16 then
        let (whole, places) := pointed digits (power + 1)
        whole ++ '.' :: (if places.isEmpty then ['0'] else places)
      else
        let mantissa := digits.take 1 ++
          (if digits.length > 1 then '.' :: digits.drop 1 else [])
        mantissa ++ 'e' :: exponentText power

/-- The number of places of a double; all places after them are zero. -/
def placeLimit : Nat := 1074

/-- The number of significant digits of a double; all digits after them are zero. -/
def significantLimit : Nat := 767

/-- A double with a fixed number of places; `keepPoint` keeps the point when there are none. -/
def fixedText (places : Nat) (keepPoint : Bool) (numerator denominator : Nat) : Text :=
  let computed := min places placeLimit
  let scaledValue := roundedQuotient (numerator * Nat.pow 10 computed) denominator
  let digits := Text.padLeft '0' (computed + 1) (Text.decimal scaledValue)
  let whole := digits.length - computed
  digits.take whole ++ (if places > 0 ∨ keepPoint then ['.'] else []) ++
    Text.padRight '0' places (digits.drop whole)

/-- The digits of a double up to a number of significant ones, and the power of ten of the first. -/
def significantDigits (count numerator denominator : Nat) : Text × Int :=
  if numerator = 0 then (['0'], 0)
  else
    let (digits, power) := roundedDigits (min count significantLimit) numerator denominator
    (Text.decimal digits, power)

/-- A double as a mantissa with a number of places and an exponent of ten. -/
def scientificText (places : Nat) (keepPoint : Bool) (numerator denominator : Nat) : Text :=
  let (digits, power) := significantDigits (places + 1) numerator denominator
  digits.take 1 ++ (if places > 0 ∨ keepPoint then ['.'] else []) ++
    Text.padRight '0' places (digits.drop 1) ++ 'e' :: exponentText power

/-- A text of digits without the zeros at its end. -/
def withoutFinalZeros (digits : Text) : Text := (digits.reverse.dropWhile (· == '0')).reverse

/-- A double with a number of significant digits: positional when the exponent of ten is from `-4`
to below that number, else scientific. Zeros at the end go unless they are kept. -/
def generalText (significant : Nat) (keepZeros : Bool) (numerator denominator : Nat) : Text :=
  let count := max significant 1
  let (digits, power) := significantDigits count numerator denominator
  let digits := if keepZeros then Text.padRight '0' count digits else digits
  let tidy (whole places : Text) : Text :=
    if keepZeros then whole ++ '.' :: places
    else
      let places := withoutFinalZeros places
      if places.isEmpty then whole else whole ++ '.' :: places
  if -4 ≤ power ∧ power < Int.ofNat count then
    let (whole, places) := pointed digits (power + 1)
    tidy whole places
  else tidy (digits.take 1) (digits.drop 1) ++ 'e' :: exponentText power

end ConnectionUri.Binary64
