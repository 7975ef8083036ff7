import ConnectionUri.Value.Basic

/-!
# Merging

Mappings merge key by key: where both sides hold a mapping, the two merge in turn, and otherwise
the stronger side replaces the weaker one.
-/

set_option autoImplicit false

namespace ConnectionUri.Settings

mutual

/-- The value of a key after a stronger value for it. -/
def mergeValue (weaker : Option Value) : Value → Value
  | .mapping entries =>
    match weaker with
    | some (.mapping old) => .mapping (mergeEntries old entries)
    | _ => .mapping entries
  | value => value
termination_by structural value => value

/-- Entries merged into a weaker mapping, one after another. -/
def mergeEntries (weaker : Mapping) : List (Text × Value) → Mapping
  | [] => weaker
  | entry :: rest => mergeEntries (mergeEntry weaker entry) rest
termination_by structural entries => entries

def mergeEntry (weaker : Mapping) : Text × Value → Mapping
  | (key, value) => Mapping.insert key (mergeValue (Mapping.get? key weaker) value) weaker
termination_by structural entry => entry

end

/-- Two mappings as one; the first is the stronger. -/
def merge (stronger weaker : Mapping) : Mapping := mergeEntries weaker stronger

end ConnectionUri.Settings
