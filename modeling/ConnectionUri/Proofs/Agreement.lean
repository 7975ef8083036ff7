import ConnectionUri.Outcome
import ConnectionUri.Proofs.ParameterMap

/-!
# Agreement and hash keys

Configurations agree when they give the same names the same values, in any order, and so do outcomes
with such configurations. A hash key keeps the order: `Configuration.hashKey_eq_iff` and
`Outcome.hashKey_eq_iff` say that keys are the same exactly where the two agree and the names stand in
one order.
-/

set_option autoImplicit false

namespace ConnectionUri

variable {α : Type}

/-!
## Maps
-/

namespace ParameterMap

theorem mem_entries_iff {map : ParameterMap α} {name : Text} {value : α} :
    (name, value) ∈ map.entries ↔ map.get? name = some value := by
  obtain ⟨entries, nodup⟩ := map
  simp only [get?]
  induction entries with
  | nil => simp
  | cons entry rest ih =>
      obtain ⟨other, old⟩ := entry
      obtain ⟨fresh, distinct⟩ := List.nodup_cons.mp nodup
      by_cases same : name = other
      · subst same
        have absent : (name, value) ∉ rest :=
          fun member => fresh (List.mem_map.mpr ⟨_, member, rfl⟩)
        simp [absent, eq_comm]
      · have differs : (name == other) = false := by simpa using same
        simp [List.lookup_cons, same, differs, ih distinct]

variable [DecidableEq α] {left right : ParameterMap α}

theorem agrees_iff : left.agrees right = true ↔ ∀ name, left.get? name = right.get? name := by
  simp only [agrees, Bool.and_eq_true, List.all_eq_true, beq_iff_eq, Prod.forall, mem_entries_iff]
  constructor
  · intro ⟨ofLeft, ofRight⟩ name
    cases found : left.get? name with
    | some value => exact (ofLeft name value found).symm
    | none =>
        cases other : right.get? name with
        | none => rfl
        | some value =>
            have present := ofRight name value other
            simp [found] at present
  · intro same
    constructor
    · intro name value found
      exact same name ▸ found
    · intro name value found
      exact (same name).symm ▸ found

/-- The entries of two maps are the same if the maps agree and their names stand in one order. -/
theorem entries_eq_iff :
    left.entries = right.entries ↔ left.agrees right = true ∧ left.names = right.names := by
  rw [agrees_iff]
  constructor
  · intro same
    simp [get?, names, same]
  · rintro ⟨values, names⟩
    exact congrArg entries (ext_get? names values)

end ParameterMap

/-!
## Configurations and outcomes
-/

variable [DecidableEq α]

namespace Configuration

theorem hashKey_eq_iff {left right : Configuration α} :
    left.hashKey = right.hashKey ↔
      left.agrees right = true ∧ left.parameters.names = right.parameters.names := by
  simp [hashKey, agrees, ParameterMap.entries_eq_iff, and_assoc]

end Configuration

namespace Outcome

/-- The names of the configuration that an outcome holds, in order. -/
def names (outcome : Outcome α) : Option (List Text) :=
  outcome.configuration.map fun configuration => configuration.parameters.names

theorem hashKey_eq_iff {left right : Outcome α} :
    left.hashKey = right.hashKey ↔ left.agrees right = true ∧ left.names = right.names := by
  have configurations : left.configuration.map Configuration.hashKey =
      right.configuration.map Configuration.hashKey ↔
        sameConfiguration left.configuration right.configuration = true ∧
          left.names = right.names := by
    unfold names
    cases left.configuration with
    | none => cases right.configuration <;> simp [sameConfiguration]
    | some found =>
        cases right.configuration with
        | none => simp [sameConfiguration]
        | some other => simp [sameConfiguration, Configuration.hashKey_eq_iff]
  simp only [hashKey, agrees, Prod.mk.injEq, configurations, Bool.and_eq_true, beq_iff_eq]
  constructor
  · intro ⟨⟨same, order⟩, fault, message⟩
    exact ⟨⟨⟨same, fault⟩, message⟩, order⟩
  · intro ⟨⟨⟨same, fault⟩, message⟩, order⟩
    exact ⟨⟨same, order⟩, fault, message⟩

end Outcome

end ConnectionUri
