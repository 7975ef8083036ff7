import ConnectionUri.Value.Basic

/-!
# Parameter policies

Which names a query may set: every name, or only the allowed ones if there are any, and never a
denied one. The lists of a policy may hold any values; only a text names a parameter.
-/

set_option autoImplicit false

namespace ConnectionUri

/-- The names that a query may and may not set. -/
structure ParameterPolicy where
  allowed : List Value
  denied : List Value

namespace ParameterPolicy

/-- The policy that permits every name. -/
def unrestricted : ParameterPolicy := ⟨[], []⟩

def ofNames (allowed denied : List Text) : ParameterPolicy :=
  ⟨allowed.map .text, denied.map .text⟩

def lists (entries : List Value) (name : Text) : Bool := entries.any fun entry => entry.isText name

/-- Whether a query may set a name. An empty list of allowed names allows all. -/
def permits (policy : ParameterPolicy) (name : Text) : Bool :=
  (policy.allowed.isEmpty || lists policy.allowed name) && !lists policy.denied name

/-- A list of texts holds exactly their names. -/
@[simp] theorem lists_map_text (names : List Text) (name : Text) :
    lists (names.map .text) name = names.contains name := by
  induction names with
  | nil => rfl
  | cons head rest ih =>
    simp only [lists, List.map_cons, List.any_cons, List.contains_cons] at ih ⊢
    rw [ih]
    simp [Value.isText, BEq.comm]

end ParameterPolicy

end ConnectionUri
