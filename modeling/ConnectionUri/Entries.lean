import ConnectionUri.Text.Basic

/-!
# Entries

Entries under names, in the order in which the names were first given. Giving a name a new value
keeps its place, so a name that occurs once goes on to occur once.
-/

set_option autoImplicit false

namespace ConnectionUri

variable {α : Type}

/-- The entries after a name is given a value: it keeps its place, or goes to the end. -/
def putEntry (name : Text) (value : α) : List (Text × α) → List (Text × α)
  | [] => [(name, value)]
  | (other, old) :: rest =>
    if other = name then (other, value) :: rest else (other, old) :: putEntry name value rest

theorem map_fst_putEntry (name : Text) (value : α) (entries : List (Text × α)) :
    (putEntry name value entries).map Prod.fst =
      if name ∈ entries.map Prod.fst then entries.map Prod.fst
      else entries.map Prod.fst ++ [name] := by
  induction entries with
  | nil => simp [putEntry]
  | cons entry rest ih =>
    obtain ⟨other, old⟩ := entry
    by_cases same : other = name
    · simp [putEntry, same]
    · simp only [putEntry, same, if_false, List.map_cons, ih, List.mem_cons, Ne.symm same, false_or]
      split <;> simp

theorem nodup_putEntry (name : Text) (value : α) {entries : List (Text × α)}
    (nodup : (entries.map Prod.fst).Nodup) :
    ((putEntry name value entries).map Prod.fst).Nodup := by
  rw [map_fst_putEntry]
  split
  · exact nodup
  · next fresh =>
    refine List.nodup_append.mpr ⟨nodup, by simp, ?_⟩
    intro left member right single
    simp only [List.mem_singleton] at single
    intro same
    exact fresh (single ▸ same ▸ member)

theorem putEntry_of_not_mem {name : Text} (value : α) {entries : List (Text × α)}
    (fresh : name ∉ entries.map Prod.fst) :
    putEntry name value entries = entries ++ [(name, value)] := by
  induction entries with
  | nil => rfl
  | cons entry rest ih =>
    obtain ⟨other, old⟩ := entry
    simp only [List.map_cons, List.mem_cons, not_or] at fresh
    simp only [putEntry, Ne.symm fresh.1, if_false, ih fresh.2, List.cons_append]

theorem lookup_putEntry (name : Text) (value : α) (other : Text) (entries : List (Text × α)) :
    (putEntry name value entries).lookup other =
      if other = name then some value else entries.lookup other := by
  induction entries with
  | nil =>
    by_cases same : other = name
    · simp [putEntry, same]
    · have differs : (other == name) = false := by simpa using same
      simp [putEntry, same, List.lookup_cons, differs]
  | cons entry rest ih =>
    obtain ⟨key, old⟩ := entry
    by_cases hit : key = name
    · subst hit
      by_cases same : other = key
      · simp [putEntry, same]
      · have differs : (other == key) = false := by simpa using same
        simp [putEntry, same, List.lookup_cons, differs]
    · simp only [putEntry, hit, if_false, List.lookup_cons]
      by_cases same : other = key
      · subst same
        simp [hit]
      · have differs : (other == key) = false := by simpa using same
        simp [differs, ih]

end ConnectionUri
