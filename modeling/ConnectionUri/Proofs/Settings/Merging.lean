import ConnectionUri.Settings.Environment
import ConnectionUri.Settings.Merge

/-!
# Merged mappings

What a key has in two merged mappings, from what it has in each: `get?_mergeEntries`. The stronger
mapping must name each key once; `Environment.distinct` says that what an environment gives does so,
for the settings as a whole and for their policy.
-/

set_option autoImplicit false

namespace ConnectionUri

/-!
## Values of keys
-/

namespace Mapping

theorem get?_nil (key : Text) : get? key [] = none := rfl

theorem get?_cons (key name : Text) (value : Value) (entries : Mapping) :
    get? key ((name, value) :: entries) = if key = name then some value else get? key entries := by
  by_cases same : key = name
  · simp [get?, same]
  · have differs : (key == name) = false := by simpa using same
    simp [get?, List.lookup_cons, same, differs]

theorem get?_append (key : Text) (first second : Mapping) :
    get? key (first ++ second) = (get? key first).or (get? key second) := List.lookup_append

theorem get?_insert (key : Text) (value : Value) (other : Text) (entries : Mapping) :
    get? other (insert key value entries) = if other = key then some value else get? other entries :=
  lookup_putEntry key value other entries

theorem get?_eq_none_iff {key : Text} {entries : Mapping} :
    get? key entries = none ↔ key ∉ entries.map Prod.fst := by
  induction entries with
  | nil => simp [get?_nil]
  | cons entry entries ih =>
      obtain ⟨name, value⟩ := entry
      by_cases same : key = name
      · simp [get?_cons, same]
      · simp [get?_cons, same, ih]

end Mapping

namespace Settings

/-!
## Merging
-/

def fieldsOf : Option Value → Mapping
  | some (.mapping entries) => entries
  | _ => []

/-- The value of a key after merging, from a stronger and a weaker one. -/
def mergeOptions : Option Value → Option Value → Option Value
  | some value, weaker => some (mergeValue weaker value)
  | none, weaker => weaker

theorem mergeValue_none (value : Value) : mergeValue none value = value := by
  cases value <;> rfl

theorem get?_mergeEntries (weaker : Mapping) {entries : Mapping}
    (distinct : (entries.map Prod.fst).Nodup) (key : Text) :
    Mapping.get? key (mergeEntries weaker entries) =
      mergeOptions (Mapping.get? key entries) (Mapping.get? key weaker) := by
  -- The weaker mapping grows by one entry at a time, and no later entry has that name again.
  induction entries generalizing weaker with
  | nil => rfl
  | cons entry entries ih =>
      obtain ⟨name, value⟩ := entry
      rw [List.map_cons, List.nodup_cons] at distinct
      have merged : mergeEntries weaker ((name, value) :: entries) =
          mergeEntries
            (Mapping.insert name (mergeValue (Mapping.get? name weaker) value) weaker) entries := rfl
      rw [merged, ih _ distinct.2, Mapping.get?_cons, Mapping.get?_insert]
      by_cases same : key = name
      · have later : Mapping.get? name entries = none := Mapping.get?_eq_none_iff.mpr distinct.1
        simp [same, later, mergeOptions]
      · simp [same]

theorem mergeEntries_of_fresh (weaker : Mapping) {entries : Mapping}
    (distinct : (entries.map Prod.fst).Nodup)
    (fresh : ∀ name ∈ entries.map Prod.fst, name ∉ weaker.map Prod.fst) :
    mergeEntries weaker entries = weaker ++ entries := by
  induction entries generalizing weaker with
  | nil => exact (List.append_nil _).symm
  | cons entry entries ih =>
      obtain ⟨name, value⟩ := entry
      rw [List.map_cons, List.nodup_cons] at distinct
      have unused : name ∉ weaker.map Prod.fst := fresh name List.mem_cons_self
      have inserted : Mapping.insert name (mergeValue (Mapping.get? name weaker) value) weaker =
          weaker ++ [(name, value)] := by
        rw [Mapping.get?_eq_none_iff.mpr unused, mergeValue_none]
        exact putEntry_of_not_mem value unused
      have freshLater : ∀ other ∈ entries.map Prod.fst,
          other ∉ (weaker ++ [(name, value)]).map Prod.fst := by
        intro other member
        rw [List.map_append, List.mem_append, not_or]
        refine ⟨fresh other (List.mem_cons_of_mem name member), ?_⟩
        intro same
        exact distinct.1 (List.mem_singleton.mp same ▸ member)
      calc mergeEntries weaker ((name, value) :: entries)
          = mergeEntries (weaker ++ [(name, value)]) entries := by rw [← inserted]; rfl
        _ = weaker ++ [(name, value)] ++ entries := ih _ distinct.2 freshLater
        _ = weaker ++ (name, value) :: entries := by simp

theorem merge_nil {entries : Mapping} (distinct : (entries.map Prod.fst).Nodup) :
    merge entries [] = entries :=
  mergeEntries_of_fresh [] distinct (by simp)

/-- A mapping takes the place of a weaker value that is none, and merges into one that is. -/
theorem mergeValue_mapping (weaker : Option Value) {entries : Mapping}
    (distinct : (entries.map Prod.fst).Nodup) :
    mergeValue weaker (.mapping entries) = .mapping (mergeEntries (fieldsOf weaker) entries) := by
  match weaker with
  | some (.mapping old) => rfl
  | none | some .null | some (.boolean _) | some (.integer _) | some (.real _) | some (.text _)
  | some (.list _) => exact congrArg Value.mapping (merge_nil distinct).symm

theorem mem_names_mergeEntries (weaker : Mapping) {entries : Mapping}
    (distinct : (entries.map Prod.fst).Nodup) {name : Text} (member : name ∈ entries.map Prod.fst) :
    name ∈ (mergeEntries weaker entries).map Prod.fst := by
  apply Classical.byContradiction
  intro missing
  have nothing := Mapping.get?_eq_none_iff.mpr missing
  rw [get?_mergeEntries weaker distinct] at nothing
  cases found : Mapping.get? name entries with
  | none => exact Mapping.get?_eq_none_iff.mp found member
  | some value =>
      rw [found] at nothing
      cases nothing

end Settings

end ConnectionUri

/-!
## Names of an environment
-/

namespace ConnectionUri.Settings

/-- Settings name each field once, and so does their policy. -/
structure Distinct (entries : Mapping) : Prop where
  names : (entries.map Prod.fst).Nodup
  policy : ((fieldsOf (Mapping.get? policyField entries)).map Prod.fst).Nodup

namespace Environment

theorem nodup_withFieldNames (entries : Mapping) : ((withFieldNames entries).map Prod.fst).Nodup :=
  List.foldlRecOn (motive := fun found : Mapping => (found.map Prod.fst).Nodup) entries _
    List.nodup_nil fun _ nodup entry _ => nodup_putEntry (policyKey entry.1) entry.2 nodup

theorem nodup_fieldsOf_policyValue {found : Environment} {policy : Option Value}
    (read : policyValue found = .ok policy) : ((fieldsOf policy).map Prod.fst).Nodup := by
  unfold policyValue at read
  split at read
  · cases own : nested found [] with
    | error error =>
        rw [own] at read
        cases read
    | ok entries =>
        rw [own] at read
        cases read
        split
        · exact List.nodup_nil
        · exact nodup_withFieldNames entries
  · split at read
    · cases read
    · cases read
      exact List.nodup_nil
    · next entries _ =>
        cases own : nested found [] with
        | error error =>
            rw [own] at read
            cases read
        | ok more =>
            rw [own] at read
            cases read
            exact nodup_withFieldNames (merge more entries)
    · next value _ other _ =>
        cases read
        cases value with
        | mapping entries => exact absurd rfl (other entries)
        | _ => exact List.nodup_nil

theorem get?_entryOf (key field : Text) (value : Option Value) :
    Mapping.get? key (entryOf field value) = if key = field then value else none := by
  cases value with
  | none => simp [entryOf, Mapping.get?_nil]
  | some value => simp [entryOf, Mapping.get?_cons, Mapping.get?_nil]

theorem sublist_entryOf (field : Text) (value : Option Value) :
    ((entryOf field value).map Prod.fst).Sublist [field] := by
  cases value with
  | none => exact List.nil_sublist _
  | some value => exact List.Sublist.refl _

theorem distinct {environment : Environment} {entries : Mapping}
    (read : environment.mapping = .ok entries) : Distinct entries := by
  unfold mapping at read
  cases found : policyValue (lowered environment) with
  | error error =>
      simp only [found] at read
      cases read
  | ok policy =>
      simp only [found] at read
      cases read
      constructor
      · have names : fieldNames.Nodup := by decide
        refine names.sublist ?_
        rw [List.map_append, List.map_append]
        exact ((sublist_entryOf _ _).append (sublist_entryOf _ _)).append (sublist_entryOf _ _)
      · have other : policyField ≠ levelField ∧ policyField ≠ maskField := by decide
        have own : Mapping.get? policyField
            (entryOf levelField ((get? (lowered environment) levelField).map .text) ++
              entryOf maskField ((get? (lowered environment) maskField).map .text) ++
              entryOf policyField policy) = policy := by
          rw [Mapping.get?_append, Mapping.get?_append]
          simp [get?_entryOf, other]
        rw [own]
        exact nodup_fieldsOf_policyValue found

end Environment

end ConnectionUri.Settings
