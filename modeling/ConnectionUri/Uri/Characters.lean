import ConnectionUri.Text.Numeral

/-!
# URI characters

The character classes of the generic URI grammar, widened by the characters of the international
repertoire. A component is spelled with the characters of its class and with escapes: a percent
sign and two hexadecimal digits.
-/

set_option autoImplicit false

namespace ConnectionUri.Uri

def internationalRanges : List (Nat × Nat) :=
  [(0xA0, 0xD7FF), (0xF900, 0xFDCF), (0xFDF0, 0xFFEF), (0x10000, 0xEFFFD)]

def isInternational (char : Char) : Bool :=
  internationalRanges.any fun (first, last) => first ≤ char.toNat && char.toNat ≤ last

/-- Whether a character is unreserved: an ASCII letter or digit, one of four marks, or an
international character. -/
def isUnreserved (char : Char) : Bool :=
  char.isAlphanum || ['-', '.', '_', '~'].contains char || isInternational char

def isSubDelimiter (char : Char) : Bool :=
  ['!', '$', '&', '\x27', '(', ')', '*', '+', ',', ';', '='].contains char

def isNameChar (char : Char) : Bool := isUnreserved char || isSubDelimiter char

def isUserInfoChar (char : Char) : Bool := isNameChar char || char == ':'

def isRegistryChar (char : Char) : Bool := isNameChar char || char == ':' || char == '@'

def isPathChar (char : Char) : Bool := isRegistryChar char || char == '/'

/-- Whether a character may stand in a query or a fragment. -/
def isQueryChar (char : Char) : Bool := isPathChar char || char == '?'

/-- Whether a character may stand inside the brackets of an address literal. -/
def isLiteralChar (char : Char) : Bool :=
  char.isAlphanum || ['-', '.', '_', '~', ':'].contains char || isSubDelimiter char

/-- Whether a character may follow the first letter of a scheme. -/
def isSchemeChar (char : Char) : Bool := char.isAlphanum || ['+', '-', '.'].contains char

/-- Whether a text is a scheme: a letter, then letters, digits and three marks. -/
def isScheme : Text → Bool
  | [] => false
  | first :: rest => first.isAlpha && rest.all isSchemeChar

/-- Whether a text consists of allowed characters and escapes. -/
def isSpelled (allowed : Char → Bool) : Text → Bool
  | [] => true
  | '%' :: high :: low :: rest =>
    Text.isHexDigit high && Text.isHexDigit low && isSpelled allowed rest
  | char :: rest => allowed char && isSpelled allowed rest

end ConnectionUri.Uri
