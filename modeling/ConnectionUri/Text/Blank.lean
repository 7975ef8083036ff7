import ConnectionUri.Text.Basic

/-!
# White space

The characters that count as white space in a message. The class is wider than the white space
of a programming language: it takes in the four information separators, the next-line control
and every space separator.
-/

set_option autoImplicit false

namespace ConnectionUri.Text

def blankRanges : List (Nat × Nat) :=
  [(0x09, 0x0D), (0x1C, 0x20), (0x85, 0x85), (0xA0, 0xA0), (0x1680, 0x1680), (0x2000, 0x200A),
   (0x2028, 0x2029), (0x202F, 0x202F), (0x205F, 0x205F), (0x3000, 0x3000)]

def isBlank (char : Char) : Bool := isWithin blankRanges char

end ConnectionUri.Text
