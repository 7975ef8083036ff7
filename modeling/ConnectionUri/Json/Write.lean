import ConnectionUri.Number.DecimalText
import ConnectionUri.Value.Basic

/-!
# Writing JSON

Values are written in printable ASCII, on one line or over several; all other characters are
written as escapes of their UTF-16 units.
-/

set_option autoImplicit false

namespace ConnectionUri.Json

def unitEscape (unit : Nat) : Text := '\\' :: 'u' :: Text.hexPadded 4 unit

/-- One character inside a string. Outside printable ASCII it is written in UTF-16 units. -/
def stringChar (char : Char) : Text :=
  if char = '\x22' then ['\\', '\x22']
  else if char = '\\' then ['\\', '\\']
  else if char = '\n' then ['\\', 'n']
  else if char = '\r' then ['\\', 'r']
  else if char = '\t' then ['\\', 't']
  else if char = '\x08' then ['\\', 'b']
  else if char = '\x0c' then ['\\', 'f']
  else if 0x20 ≤ char.toNat ∧ char.toNat ≤ 0x7E then [char]
  else if char.toNat < 0x10000 then unitEscape char.toNat
  else
    let offset := char.toNat - 0x10000
    unitEscape (0xD800 + offset / 0x400) ++ unitEscape (0xDC00 + offset % 0x400)

def string (text : Text) : Text := '\x22' :: text.flatMap stringChar ++ ['\x22']

/-- A double as a JSON number or one of the three number words. -/
def number : Binary64 → Text
  | .notANumber => "NaN".toList
  | .infinite false => "Infinity".toList
  | .infinite true => "-Infinity".toList
  | value => value.text

mutual

/-- A value on one line, with a space after every comma and colon. -/
def line : Value → Text
  | .null => "null".toList
  | .boolean true => "true".toList
  | .boolean false => "false".toList
  | .integer value => Text.ofInt value
  | .real value => number value
  | .text value => string value
  | .list items => '[' :: Text.joined ", ".toList (lineItems items) ++ [']']
  | .mapping entries => '\x7b' :: Text.joined ", ".toList (lineEntries entries) ++ ['\x7d']
termination_by structural value => value

/-- The items of a list, each on its own. -/
def lineItems : List Value → List Text
  | [] => []
  | item :: rest => line item :: lineItems rest
termination_by structural items => items

/-- The members of a mapping, each on its own. -/
def lineEntries : List (Text × Value) → List Text
  | [] => []
  | entry :: rest => lineEntry entry :: lineEntries rest
termination_by structural entries => entries

/-- A member: its name, a colon and its value. -/
def lineEntry : Text × Value → Text
  | (name, value) => string name ++ ": ".toList ++ line value
termination_by structural entry => entry

end

def newline (depth : Nat) : Text := '\n' :: List.replicate (2 * depth) ' '

/-- Written parts between brackets, each on its own line one level deeper; no parts leave the
brackets together. -/
def block (opening closing : Char) (depth : Nat) (parts : List Text) : Text :=
  if parts.isEmpty then [opening, closing]
  else
    opening :: newline (depth + 1) ++ Text.joined (',' :: newline (depth + 1)) parts ++
      newline depth ++ [closing]

mutual

/-- A value over several lines, indented by two spaces per level. -/
def indented (depth : Nat) : Value → Text
  | .list items => block '[' ']' depth (indentedItems (depth + 1) items)
  | .mapping entries => block '\x7b' '\x7d' depth (indentedEntries (depth + 1) entries)
  | .null => "null".toList
  | .boolean true => "true".toList
  | .boolean false => "false".toList
  | .integer value => Text.ofInt value
  | .real value => number value
  | .text value => string value
termination_by structural value => value

def indentedItems (depth : Nat) : List Value → List Text
  | [] => []
  | item :: rest => indented depth item :: indentedItems depth rest
termination_by structural items => items

def indentedEntries (depth : Nat) : List (Text × Value) → List Text
  | [] => []
  | entry :: rest => indentedEntry depth entry :: indentedEntries depth rest
termination_by structural entries => entries

def indentedEntry (depth : Nat) : Text × Value → Text
  | (name, value) => string name ++ ": ".toList ++ indented depth value
termination_by structural entry => entry

end

end ConnectionUri.Json
