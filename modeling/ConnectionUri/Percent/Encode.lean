import ConnectionUri.Percent.Utf8
import ConnectionUri.Text.Numeral

/-!
# Percent encoding

ASCII letters, digits and four marks stand for themselves; every other character is written as the
escapes of its UTF-8 bytes.
-/

set_option autoImplicit false

namespace ConnectionUri.Percent

/-- Whether a character is left as it is. -/
def isSafe (char : Char) : Bool := char.isAlphanum || ['-', '.', '_', '~'].contains char

def upperHexDigit (value : Nat) : Char := (Nat.digitChar value).toUpper

def escape (byte : UInt8) : Text :=
  ['%', upperHexDigit (byte.toNat / 16), upperHexDigit (byte.toNat % 16)]

def encodeChar (char : Char) : Text :=
  if isSafe char then [char] else (String.utf8EncodeChar char).flatMap escape

def encode (text : Text) : Text := text.flatMap encodeChar

end ConnectionUri.Percent
