import ConnectionUri.Text.Basic

/-!
# Style codes

A style code tells a terminal how to show the text that follows: an escape character, an opening
bracket, parameters and a letter. Output that does not go to a terminal is written without them.
-/

set_option autoImplicit false

namespace ConnectionUri.CommandLine

def escapeChar : Char := '\x1b'

/-- Whether a character may belong to the parameters of a style code. -/
def isStyleParameter (char : Char) : Bool :=
  char.isDigit || char == ';' || char == '?'

/-- The number of characters of the style code at the front of a text. -/
def styleCodeSize? (text : Text) : Option Nat :=
  match text with
  | escape :: '[' :: rest =>
    match rest.dropWhile isStyleParameter with
    | letter :: _ =>
      if escape = escapeChar ∧ letter.isAlpha = true then
        some ((rest.takeWhile isStyleParameter).length + 3)
      else none
    | [] => none
  | _ => none

/-- A text without its style codes, after `skip` characters of one that is under way. -/
def plainFrom : Nat → Text → Text
  | _, [] => []
  | skip + 1, _ :: rest => plainFrom skip rest
  | 0, char :: rest =>
    match styleCodeSize? (char :: rest) with
    | some size => plainFrom (size - 1) rest
    | none => char :: plainFrom 0 rest

/-- A text without its style codes. They are taken out once, from left to right. -/
def withoutStyleCodes (text : Text) : Text := plainFrom 0 text

end ConnectionUri.CommandLine
