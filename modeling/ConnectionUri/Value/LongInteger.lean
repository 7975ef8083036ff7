import ConnectionUri.Text.Numeral
import ConnectionUri.Value.Basic

/-!
# Long integers

Integers whose decimal digits are too many to be converted, and the one of a value that is met first
when the value is built. Values are built level by level: a container comes before what it holds, and
all that is on one level before what is deeper.
-/

set_option autoImplicit false

namespace ConnectionUri

/-- An integer that is too long, by its digits and the number of containers around it. -/
structure LongInteger where
  depth : Nat
  digits : Nat
  deriving DecidableEq

namespace LongInteger

def deeper (long : LongInteger) : LongInteger := ⟨long.depth + 1, long.digits⟩

/-- The integer that is met first of two that stand in this order. -/
def first? : Option LongInteger → Option LongInteger → Option LongInteger
  | none, later => later
  | some earlier, none => some earlier
  | some earlier, some later => if later.depth < earlier.depth then some later else some earlier

end LongInteger

namespace Value

def digitCount (value : Int) : Nat := (Text.decimal value.natAbs).length

mutual

/-- The long integer that is met first in a value. -/
def longInteger? : Value → Option LongInteger
  | .integer value =>
    if Text.digitLimit < digitCount value then some ⟨0, digitCount value⟩ else none
  | .list items => (longInItems? items).map .deeper
  | .mapping entries => (longInMapping? entries).map .deeper
  | _ => none
termination_by structural value => value

def longInItems? : List Value → Option LongInteger
  | [] => none
  | item :: rest => LongInteger.first? (longInteger? item) (longInItems? rest)
termination_by structural items => items

def longInMapping? : List (Text × Value) → Option LongInteger
  | [] => none
  | entry :: rest => LongInteger.first? (longInPair? entry) (longInMapping? rest)
termination_by structural entries => entries

def longInPair? : Text × Value → Option LongInteger
  | (_, value) => longInteger? value
termination_by structural entry => entry

end

end Value

end ConnectionUri
