import ConnectionUri.Number.DecimalText
import ConnectionUri.Value.Basic
import ConnectionUri.Text.Quoted

/-!
# Spelled values

How a value reads in a message. A text stands for itself on its own and is quoted inside a list or
a mapping.
-/

set_option autoImplicit false

namespace ConnectionUri.Value

def wordOf : Option Bool → Text
  | none => "None".toList
  | some true => "True".toList
  | some false => "False".toList

mutual

/-- A value with its texts quoted by `quote`. -/
def literal (quote : Text → Text) : Value → Text
  | .null => wordOf none
  | .boolean value => wordOf (some value)
  | .integer value => Text.ofInt value
  | .real value => value.text
  | .text value => quote value
  | .list items => '[' :: Text.joined ", ".toList (literalItems quote items) ++ [']']
  | .mapping entries => '\x7b' :: Text.joined ", ".toList (literalEntries quote entries) ++ ['\x7d']
termination_by structural value => value

def literalItems (quote : Text → Text) : List Value → List Text
  | [] => []
  | item :: rest => literal quote item :: literalItems quote rest
termination_by structural items => items

def literalEntries (quote : Text → Text) : List (Text × Value) → List Text
  | [] => []
  | entry :: rest => literalEntry quote entry :: literalEntries quote rest
termination_by structural entries => entries

/-- A key and its value with a colon between them. -/
def literalEntry (quote : Text → Text) : Text × Value → Text
  | (key, value) => quote key ++ ": ".toList ++ literal quote value
termination_by structural entry => entry

end

/-- A value with printable characters standing for themselves. -/
def quoted (value : Value) : Text := literal Text.quoted value

/-- A value written in ASCII alone. -/
def quotedAscii (value : Value) : Text := literal Text.quotedAscii value

/-- A value as it reads in running text. -/
def plain : Value → Text
  | .text value => value
  | value => quoted value

end ConnectionUri.Value
