import ConnectionUri.Entries
import ConnectionUri.Number.Binary64

/-!
# Dynamic values

The values of data files, of environment variables that hold data, and of message arguments. A
mapping keeps the order of its entries.
-/

set_option autoImplicit false

namespace ConnectionUri

/-- A value of a data file. -/
inductive Value where
  | null
  | boolean (value : Bool)
  | integer (value : Int)
  | real (value : Binary64)
  | text (value : Text)
  | list (items : List Value)
  | mapping (entries : List (Text × Value))

abbrev Mapping := List (Text × Value)

namespace Mapping

def get? (key : Text) (entries : Mapping) : Option Value := List.lookup key entries

/-- Gives a key a value: a key that is there keeps its place, a new one goes to the end. -/
def insert (key : Text) (value : Value) (entries : Mapping) : Mapping := putEntry key value entries

/-- Inserts entries one after another. -/
def ofList (entries : List (Text × Value)) : Mapping :=
  entries.foldl (fun mapping entry => insert entry.1 entry.2 mapping) []

end Mapping

namespace Value

/-- The name of a value's type, as error messages give it. -/
def typeName : Value → Text
  | .null => "NoneType".toList
  | .boolean _ => "bool".toList
  | .integer _ => "int".toList
  | .real _ => "float".toList
  | .text _ => "str".toList
  | .list _ => "list".toList
  | .mapping _ => "dict".toList

def isText (text : Text) : Value → Bool
  | .text value => value == text
  | _ => false

/-- Whether a value counts as nothing: an absent value, a false or zero one, or an empty one. -/
def isEmpty : Value → Bool
  | .null => true
  | .boolean value => !value
  | .integer value => value == 0
  | .real value => value.isInteger 0
  | .text value => value.isEmpty
  | .list items => items.isEmpty
  | .mapping entries => entries.isEmpty

end Value

end ConnectionUri
