import ConnectionUri.Log.FormatError
import ConnectionUri.Value.Spelling

/-!
# Conversions

One argument of a message under a layout: as a text, an integer in one of three bases, a real
number in one of three forms, or a character.
-/

set_option autoImplicit false

namespace ConnectionUri.Log.Template

/-- How a converted argument is laid out. -/
structure Layout where
  leftAligned : Bool
  plusSign : Bool
  blankSign : Bool
  alternate : Bool
  zeroFilled : Bool
  width : Nat
  precision : Option Nat

/-- A text between spaces up to the width of a layout. -/
def alignText (layout : Layout) (text : Text) : Text :=
  if layout.leftAligned then Text.padRight ' ' layout.width text
  else Text.padLeft ' ' layout.width text

/-- The sign of a written number under a layout. -/
def signText (layout : Layout) (negative : Bool) : Text :=
  if negative then ['-'] else if layout.plusSign then ['+'] else if layout.blankSign then [' ']
  else []

/-- A number from its sign, the mark of its base and its digits, filled up to the width. -/
def alignNumber (layout : Layout) (negative : Bool) (base digits : Text) : Text :=
  let sign := signText layout negative
  let size := sign.length + base.length
  if layout.leftAligned then Text.padRight ' ' layout.width (sign ++ base ++ digits)
  else if layout.zeroFilled then sign ++ base ++ Text.padLeft '0' (layout.width - size) digits
  else Text.padLeft ' ' layout.width (sign ++ base ++ digits)

def baseOf (letter : Char) : Nat × Text :=
  if letter = 'o' then (8, ['0', 'o'])
  else if letter = 'x' then (16, ['0', 'x'])
  else if letter = 'X' then (16, ['0', 'X'])
  else (10, [])

/-- An integer under a layout; the precision is the least number of digits. -/
def integerText (layout : Layout) (letter : Char) (value : Int) : Text :=
  let (base, mark) := baseOf letter
  let digits := Text.padLeft '0' (layout.precision.getD 0) (Text.ofNat base value.natAbs)
  let digits := if letter = 'X' then digits.map Char.toUpper else digits
  alignNumber layout (decide (value < 0)) (if layout.alternate then mark else []) digits

/-- The integer of a value under an integer conversion; decimal conversions cut a real number. -/
def integerOf (letter : Char) (value : Value) : Except FormatError Int :=
  let decimal := (baseOf letter).1 == 10
  let refused : FormatError :=
    if decimal then .notNumber letter value.typeName else .notInteger letter value.typeName
  match value with
  | .integer value => .ok value
  | .boolean value => .ok (if value then 1 else 0)
  | .real number =>
    if decimal then
      match number, number.truncated? with
      | _, some value => .ok value
      | .notANumber, none => .error .nanToInteger
      | _, none => .error .infinityToInteger
    else .error refused
  | _ => .error refused

/-- The double of a value under a real conversion. -/
def realOf : Value → Except FormatError Binary64
  | .real number => .ok number
  | .boolean value => .ok (Binary64.ofInt (if value then 1 else 0))
  | .integer value =>
    match Binary64.ofInt value with
    | .infinite _ => .error .realOverflow
    | number => .ok number
  | value => .error (.notReal value.typeName)

/-- The digits of a finite number under a real conversion. -/
def realDigits (layout : Layout) (letter : Char) (numerator denominator : Nat) : Text :=
  let places := layout.precision.getD 6
  let lower := letter.toLower
  if lower = 'f' then Binary64.fixedText places layout.alternate numerator denominator
  else if lower = 'e' then Binary64.scientificText places layout.alternate numerator denominator
  else Binary64.generalText places layout.alternate numerator denominator

/-- A real number under a layout. -/
def realText (layout : Layout) (letter : Char) (number : Binary64) : Text :=
  let (negative, digits) :=
    match number with
    | .notANumber => (false, "nan".toList)
    | .infinite negative => (negative, "inf".toList)
    | .finite negative significand exponent =>
      let (numerator, denominator) := Binary64.fraction significand exponent
      (negative, realDigits layout letter numerator denominator)
  let digits := if letter.isUpper then digits.map Char.toUpper else digits
  alignNumber layout negative [] digits

/-- The character of a value under the character conversion. -/
def characterOf : Value → Except FormatError Char
  | .text [char] => .ok char
  | .integer value =>
    if value < 0 ∨ value > 0x10FFFF then .error .characterOutOfRange
    else .ok (Char.ofNat value.toNat)
  | .boolean value => .ok (Char.ofNat (if value then 1 else 0))
  | _ => .error .notCharacter

def cutText (layout : Layout) (text : Text) : Text :=
  match layout.precision with
  | some count => text.take count
  | none => text

/-- The greatest precision of an integer. -/
def integerPrecisionLimit : Nat := Nat.pow 2 31 - 4

def convertInteger (layout : Layout) (letter : Char) (value : Value) : Except FormatError Text := do
  let number ← integerOf letter value
  if layout.precision.getD 0 > integerPrecisionLimit then .error .precisionTooLarge
  else .ok (integerText layout letter number)

def convertFitting (layout : Layout) (letter : Char) (index : Nat) (value : Value) :
    Except FormatError Text :=
  if letter = 's' then .ok (alignText layout (cutText layout value.plain))
  else if letter = 'r' then .ok (alignText layout (cutText layout value.quoted))
  else if letter = 'a' then .ok (alignText layout (cutText layout value.quotedAscii))
  else if ['d', 'i', 'u', 'o', 'x', 'X'].contains letter then
    convertInteger layout letter value
  else if ['e', 'E', 'f', 'F', 'g', 'G'].contains letter then
    (realOf value).map (realText layout letter)
  else if letter = 'c' then (characterOf value).map fun char => alignText layout [char]
  else .error (.unknownConversion letter index)

/-- The greatest width that is laid out; a wider text does not fit in memory. -/
def memoryLimit : Nat := Nat.pow 2 36

/-- One converted argument; `index` is the place of the conversion letter. -/
def convert (layout : Layout) (letter : Char) (index : Nat) (value : Value) :
    Except FormatError Text :=
  if layout.width ≤ memoryLimit then convertFitting layout letter index value
  else
    match convertFitting { layout with width := 0 } letter index value with
    | .ok _ => .error .outOfMemory
    | .error error => .error error

end ConnectionUri.Log.Template
