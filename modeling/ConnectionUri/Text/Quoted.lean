import ConnectionUri.Text.Numeral
import ConnectionUri.Text.Printable

/-!
# Quoted texts

A quoted text stands between single quotes, or between double quotes when it holds a single quote
and no double one. The quote in use and the backslash are escaped, line feed, carriage return and
tab have short escapes, and every other unprintable character is written by its code point.
-/

set_option autoImplicit false

namespace ConnectionUri.Text

/-- An escape that names a code point, in the shortest of the three widths that holds it. -/
def codePointEscape (code : Nat) : Text :=
  if code < 0x100 then '\\' :: 'x' :: hexPadded 2 code
  else if code < 0x10000 then '\\' :: 'u' :: hexPadded 4 code
  else '\\' :: 'U' :: hexPadded 8 code

/-- One character inside quotes; `plain` says which characters stand for themselves. -/
def quotedChar (plain : Char → Bool) (quote char : Char) : Text :=
  if char = quote ∨ char = '\\' then ['\\', char]
  else if char = '\n' then ['\\', 'n']
  else if char = '\r' then ['\\', 'r']
  else if char = '\t' then ['\\', 't']
  else if plain char then [char]
  else codePointEscape char.toNat

def singleQuote : Char := '\x27'

def doubleQuote : Char := '\x22'

def quoteFor (text : Text) : Char :=
  if text.contains singleQuote && !text.contains doubleQuote then doubleQuote else singleQuote

/-- A text between quotes, with the characters that are not `plain` written by code point. -/
def quotedBy (plain : Char → Bool) (text : Text) : Text :=
  let quote := quoteFor text
  quote :: text.flatMap (quotedChar plain quote) ++ [quote]

/-- A text between quotes; printable characters stand for themselves. -/
def quoted (text : Text) : Text := quotedBy isPrintable text

/-- A text between quotes, written in ASCII alone. -/
def quotedAscii (text : Text) : Text :=
  quotedBy (fun char => isPrintable char && char.toNat < 0x80) text

end ConnectionUri.Text
