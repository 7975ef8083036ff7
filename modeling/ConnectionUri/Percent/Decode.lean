import ConnectionUri.Percent.Utf8
import ConnectionUri.Text.Quoted

/-!
# Form decoding

A plus sign stands for a space, a percent sign with two hexadecimal digits for a byte, and every
other character for itself. The bytes of each maximal run of ASCII characters are read as UTF-8 on
their own, so a character beyond ASCII ends a sequence.
-/

set_option autoImplicit false

namespace ConnectionUri.Percent

/-- Why a text does not decode. -/
inductive DecodingError where
  | malformedEscape (index : Nat) (value : Text)
  | notUtf8 (value : Text)
  deriving DecidableEq

def DecodingError.message : DecodingError → Text
  | .malformedEscape index value =>
    "Malformed percent-escape at index ".toList ++ Text.decimal index ++ " in ".toList ++
      Text.quoted value
  | .notUtf8 value => "Unable to decode ".toList ++ Text.quoted value ++ " as utf-8".toList

/-- The place of the first percent sign without two hexadecimal digits after it. -/
def strayPercent? : Text → Option Nat
  | [] => none
  | '%' :: high :: low :: rest =>
    if Text.isHexDigit high && Text.isHexDigit low then (strayPercent? rest).map (· + 3) else some 0
  | char :: rest => if char = '%' then some 0 else (strayPercent? rest).map (· + 1)

/-- What one character or escape stands for. -/
inductive Piece where
  | byte (value : UInt8)
  | foreign (char : Char)
  deriving DecidableEq

def escapedByte (high low : Char) : UInt8 :=
  UInt8.ofNat (16 * (Text.hexValue? high).getD 0 + (Text.hexValue? low).getD 0)

def Piece.ofChar (char : Char) : Piece :=
  if char = '+' then .byte 0x20
  else if char.toNat < 0x80 then .byte (UInt8.ofNat char.toNat)
  else .foreign char

/-- The pieces of a text whose percent signs all start an escape. -/
def pieces : Text → List Piece
  | [] => []
  | '%' :: high :: low :: rest => .byte (escapedByte high low) :: pieces rest
  | char :: rest => .ofChar char :: pieces rest

/-- The bytes before the first foreign character, and each foreign character with the bytes up to
the next one. -/
def runs : List Piece → List UInt8 × List (Char × List UInt8)
  | [] => ([], [])
  | .byte value :: rest =>
    let (run, more) := runs rest
    (value :: run, more)
  | .foreign char :: rest =>
    let (run, more) := runs rest
    ([], (char, run) :: more)

/-- The text of foreign characters and the runs after them. -/
def decodeRuns? : List (Char × List UInt8) → Option Text
  | [] => some []
  | (char, run) :: rest =>
    match Utf8.decode? run, decodeRuns? rest with
    | some text, some more => some (char :: text ++ more)
    | _, _ => none

/-- The text of pieces, each run of bytes being decoded on its own. -/
def decodePieces? (pieces : List Piece) : Option Text :=
  match Utf8.decode? (runs pieces).1, decodeRuns? (runs pieces).2 with
  | some text, some more => some (text ++ more)
  | _, _ => none

/-- The text that a form-encoded text stands for. -/
def decode (value : Text) : Except DecodingError Text :=
  match strayPercent? value with
  | some index => .error (.malformedEscape index value)
  | none =>
    match decodePieces? (pieces value) with
    | some text => .ok text
    | none => .error (.notUtf8 value)

end ConnectionUri.Percent
