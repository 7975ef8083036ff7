import ConnectionUri.ParameterMap

/-!
# Repeated writes

What a map holds after entries are written to it one after another. `get?_insertMany` gives the
values, the last write of each name, and `names_insertMany` the order, that of the first writes.
Names and values determine a map, so `insertMany_ofList` and `restrict_ofList` follow: writing the
entries of a map is writing what it was made from, and names can be left out before or after.
-/

set_option autoImplicit false

/-!
## First occurrences
-/

namespace ConnectionUri

theorem eraseDups_filter (keep : Text → Bool) (names : List Text) :
    (names.filter keep).eraseDups = names.eraseDups.filter keep := by
  match names with
  | [] => rfl
  | name :: rest =>
      have ih := eraseDups_filter keep (rest.filter fun other => !other == name)
      rw [List.eraseDups_cons, List.filter_cons, List.filter_cons]
      cases kept : keep name with
      | true =>
          simp only [if_true, List.eraseDups_cons, List.filter_filter, ← ih]
          simp only [Bool.and_comm]
      | false =>
          have without : (rest.filter fun other => !other == name).filter keep =
              rest.filter keep := by
            rw [List.filter_filter]
            apply List.filter_congr
            intro other _
            cases same : other == name with
            | true => simp [eq_of_beq same, kept]
            | false => simp
          simp only [Bool.false_eq_true, if_false, ← ih, without]
termination_by names.length
decreasing_by
  have shorter := List.length_filter_le (fun other => !other == name) rest
  simp only [List.length_cons]
  omega

theorem eraseDups_of_nodup {names : List Text} (distinct : names.Nodup) :
    names.eraseDups = names := by
  induction names with
  | nil => rfl
  | cons name rest ih =>
      obtain ⟨fresh, restDistinct⟩ := List.nodup_cons.mp distinct
      have kept : (rest.filter fun other => !other == name) = rest := by
        rw [List.filter_eq_self]
        intro other member
        simpa using fun same : other = name => fresh (same ▸ member)
      rw [List.eraseDups_cons, kept, ih restDistinct]

theorem nodup_eraseDups (names : List Text) : names.eraseDups.Nodup := by
  match names with
  | [] => exact List.nodup_nil
  | name :: rest =>
      rw [List.eraseDups_cons, List.nodup_cons]
      refine ⟨fun member => ?_, nodup_eraseDups _⟩
      simpa using List.mem_eraseDups.mp member
termination_by names.length
decreasing_by
  have shorter := List.length_filter_le (fun other => !other == name) rest
  simp only [List.length_cons]
  omega

theorem eraseDups_append_eraseDups (names more : List Text) :
    (names ++ more.eraseDups).eraseDups = (names ++ more).eraseDups := by
  have fresh : more.eraseDups.removeAll names = (more.removeAll names).eraseDups :=
    (eraseDups_filter _ more).symm
  rw [List.eraseDups_append, List.eraseDups_append, fresh,
    eraseDups_of_nodup (nodup_eraseDups _)]

theorem eraseDups_append_cons_of_mem {names : List Text} {name : Text} (known : name ∈ names)
    (more : List Text) : (names ++ name :: more).eraseDups = (names ++ more).eraseDups := by
  have skipped : (name :: more).removeAll names = more.removeAll names := by
    simp [List.removeAll, known]
  rw [List.eraseDups_append, List.eraseDups_append, skipped]

end ConnectionUri

/-!
## Last values
-/

namespace ConnectionUri

variable {α : Type}

/-- The value that a name has last in a list of entries. -/
def lastValue? (name : Text) (entries : List (Text × α)) : Option α := entries.reverse.lookup name

@[simp] theorem lastValue?_nil (name : Text) : lastValue? name ([] : List (Text × α)) = none := rfl

theorem lastValue?_append (name : Text) (entries more : List (Text × α)) :
    lastValue? name (entries ++ more) = (lastValue? name more).or (lastValue? name entries) := by
  rw [lastValue?, List.reverse_append, List.lookup_append]
  rfl

theorem lastValue?_singleton (name other : Text) (value : α) :
    lastValue? name [(other, value)] = if name = other then some value else none := by
  rw [lastValue?, List.reverse_singleton, List.lookup_cons]
  by_cases same : name = other
  · simp [same]
  · have differs : (name == other) = false := by simpa using same
    simp [same, differs]

theorem lastValue?_cons (name other : Text) (value : α) (rest : List (Text × α)) :
    lastValue? name ((other, value) :: rest) =
      (lastValue? name rest).or (if name = other then some value else none) := by
  rw [← List.singleton_append, lastValue?_append, lastValue?_singleton]

theorem lastValue?_filter (keep : Text → Bool) (name : Text) (entries : List (Text × α)) :
    lastValue? name (entries.filter fun entry => keep entry.1) =
      if keep name then lastValue? name entries else none := by
  induction entries with
  | nil => simp
  | cons entry rest ih =>
      obtain ⟨other, value⟩ := entry
      rw [List.filter_cons, lastValue?_cons]
      by_cases same : name = other
      · subst same
        cases kept : keep name with
        | true => simp only [if_true, lastValue?_cons, ih, kept]
        | false => simp only [Bool.false_eq_true, if_false, ih, kept]
      · cases keep other with
        | true => simp only [if_true, lastValue?_cons, ih, same, if_false, Option.or_none]
        | false => simp only [Bool.false_eq_true, if_false, ih, same, Option.or_none]

theorem lastValue?_eq_none_iff {name : Text} {entries : List (Text × α)} :
    lastValue? name entries = none ↔ name ∉ entries.map Prod.fst := by
  induction entries with
  | nil => simp
  | cons entry rest ih =>
      obtain ⟨other, value⟩ := entry
      rw [lastValue?_cons, Option.or_eq_none_iff, ih, List.map_cons, List.mem_cons, not_or]
      by_cases same : name = other
      · simp [same]
      · simp [same]

/-- The last value of a name is that of an entry after which the name does not occur. -/
theorem lastValue?_eq_some_iff {name : Text} {value : α} {entries : List (Text × α)} :
    lastValue? name entries = some value ↔ ∃ before after,
      entries = before ++ (name, value) :: after ∧ name ∉ after.map Prod.fst := by
  constructor
  · intro found
    obtain ⟨after, before, split, absent⟩ := List.lookup_eq_some_iff.mp found
    refine ⟨before.reverse, after.reverse, ?_, ?_⟩
    · rw [← List.reverse_reverse entries, split]
      simp
    · intro member
      obtain ⟨entry, inside, same⟩ := List.mem_map.mp member
      have differs := absent entry (List.mem_reverse.mp inside)
      simp [same] at differs
  · intro ⟨before, after, split, absent⟩
    rw [split, lastValue?_append, lastValue?_cons, lastValue?_eq_none_iff.mpr absent]
    simp

end ConnectionUri

/-!
## Maps
-/

namespace ConnectionUri.ParameterMap

variable {α : Type}

theorem insertMany_cons (map : ParameterMap α) (name : Text) (value : α)
    (rest : List (Text × α)) :
    map.insertMany ((name, value) :: rest) = (map.insert name value).insertMany rest := rfl

/-- A name has the value that it was given last, or the one that it had. -/
theorem get?_insertMany (map : ParameterMap α) (entries : List (Text × α)) (name : Text) :
    (map.insertMany entries).get? name = (lastValue? name entries).or (map.get? name) := by
  induction entries generalizing map with
  | nil => rfl
  | cons entry rest ih =>
      obtain ⟨other, value⟩ := entry
      rw [insertMany_cons, ih, get?_insert, lastValue?_cons, Option.or_assoc]
      by_cases same : name = other
      · simp [same]
      · simp [same]

/-- The names stand in the order in which they were first given. -/
theorem names_insertMany (map : ParameterMap α) (entries : List (Text × α)) :
    (map.insertMany entries).names = (map.names ++ entries.map Prod.fst).eraseDups := by
  induction entries generalizing map with
  | nil =>
      have distinct : map.names.Nodup := map.nodup
      rw [List.map_nil, List.append_nil, eraseDups_of_nodup distinct]
      rfl
  | cons entry rest ih =>
      obtain ⟨name, value⟩ := entry
      rw [insertMany_cons, ih, names_insert, List.map_cons]
      by_cases known : name ∈ map.names
      · rw [if_pos known, eraseDups_append_cons_of_mem known]
      · rw [if_neg known, List.append_assoc]
        rfl

theorem get?_ofList (entries : List (Text × α)) (name : Text) :
    (ofList entries).get? name = lastValue? name entries := by
  have given := get?_insertMany (∅ : ParameterMap α) entries name
  rwa [get?_empty, Option.or_none] at given

theorem names_ofList (entries : List (Text × α)) :
    (ofList entries).names = (entries.map Prod.fst).eraseDups :=
  names_insertMany empty entries

private theorem entries_eq_of_lookup {left right : List (Text × α)}
    (distinct : (left.map Prod.fst).Nodup) (names : left.map Prod.fst = right.map Prod.fst)
    (values : ∀ name, left.lookup name = right.lookup name) : left = right := by
  induction left generalizing right with
  | nil => exact (List.map_eq_nil_iff.mp names.symm).symm
  | cons entry rest ih =>
      obtain ⟨name, value⟩ := entry
      cases right with
      | nil => cases names
      | cons other more =>
          obtain ⟨key, old⟩ := other
          obtain ⟨sameName, sameNames⟩ := List.cons.inj names
          obtain rfl : name = key := sameName
          obtain ⟨fresh, restDistinct⟩ := List.nodup_cons.mp distinct
          have sameValue : value = old := by
            simpa [List.lookup_cons] using values name
          have sameRest : rest = more := by
            refine ih restDistinct sameNames fun asked => ?_
            by_cases same : asked = name
            · subst same
              have absent : ∀ entries : List (Text × α), asked ∉ entries.map Prod.fst →
                  entries.lookup asked = none := by
                intro entries outside
                rw [List.lookup_eq_none_iff]
                intro entry member
                simpa using fun same : asked = entry.1 =>
                  outside (same ▸ List.mem_map_of_mem member)
              rw [absent rest fresh, absent more (sameNames ▸ fresh)]
            · have differs : (asked == name) = false := by simpa using same
              simpa [List.lookup_cons, differs] using values asked
          rw [sameValue, sameRest]

/-- Two maps with the same names in the same order and the same values are the same. -/
theorem ext_get? {left right : ParameterMap α} (names : left.names = right.names)
    (values : ∀ name, left.get? name = right.get? name) : left = right := by
  have same := entries_eq_of_lookup left.nodup names values
  cases left
  cases right
  cases same
  rfl

theorem ofList_entries (map : ParameterMap α) : ofList map.entries = map := by
  have same := entries_ofList_of_nodup map.nodup
  cases map
  cases made : ofList _
  simp only [made] at same
  cases same
  rfl

/-- Writing the entries of a map has the effect of writing what the map was made from. -/
theorem insertMany_ofList (map : ParameterMap α) (entries : List (Text × α)) :
    map.insertMany (ofList entries).entries = map.insertMany entries := by
  apply ext_get?
  · rw [names_insertMany, names_insertMany]
    have names : (ofList entries).entries.map Prod.fst = (entries.map Prod.fst).eraseDups :=
      names_ofList entries
    rw [names, eraseDups_append_eraseDups]
  · intro name
    rw [get?_insertMany, get?_insertMany, ← get?_ofList, ← get?_ofList, ofList_entries]

theorem ofList_append_entries_append (before entries after : List (Text × α)) :
    ofList (before ++ (ofList entries).entries ++ after) = ofList (before ++ entries ++ after) := by
  have steps : ∀ middle, ofList (before ++ middle ++ after) =
      ((ofList before).insertMany middle).insertMany after := by
    intro middle
    rw [ofList, insertMany_append, insertMany_append, ← ofList]
  rw [steps, steps, insertMany_ofList]

/-- The entries under the names that are kept. -/
def restrict (keep : Text → Bool) (map : ParameterMap α) : ParameterMap α where
  entries := map.entries.filter fun entry => keep entry.1
  nodup := map.nodup.sublist (List.filter_sublist.map Prod.fst)

theorem names_restrict (keep : Text → Bool) (map : ParameterMap α) :
    (map.restrict keep).names = map.names.filter keep := by
  simp only [names, restrict, List.filter_map]
  rfl

theorem get?_restrict (keep : Text → Bool) (map : ParameterMap α) (name : Text) :
    (map.restrict keep).get? name = if keep name then map.get? name else none := by
  rw [← ofList_entries (map.restrict keep), get?_ofList]
  conv => rhs; rw [← ofList_entries map, get?_ofList]
  exact lastValue?_filter keep name map.entries

theorem restrict_ofList (keep : Text → Bool) (entries : List (Text × α)) :
    (ofList entries).restrict keep = ofList (entries.filter fun entry => keep entry.1) := by
  apply ext_get?
  · rw [names_restrict, names_ofList, names_ofList, ← eraseDups_filter, List.filter_map]
    rfl
  · intro name
    rw [get?_restrict, get?_ofList, get?_ofList, lastValue?_filter]

theorem get?_eq_none_iff {map : ParameterMap α} {name : Text} :
    map.get? name = none ↔ name ∉ map.names := by
  have given : lastValue? name map.entries = none ↔ name ∉ map.names := lastValue?_eq_none_iff
  rwa [← get?_ofList, ofList_entries] at given

theorem names_replace (map : ParameterMap α) (name : Text) (value : α) :
    (map.replace name value).names = map.names := by
  unfold replace
  cases found : map.get? name with
  | none => rfl
  | some old =>
      have known : name ∈ map.names := by
        apply Classical.byContradiction
        intro absent
        rw [get?_eq_none_iff.mpr absent] at found
        cases found
      rw [Option.isSome_some, if_pos rfl, names_insert, if_pos known]

theorem get?_replace (map : ParameterMap α) (name : Text) (value : α) (other : Text) :
    (map.replace name value).get? other =
      if other = name then (map.get? name).map fun _ => value else map.get? other := by
  unfold replace
  cases found : map.get? name with
  | none =>
      rw [Option.isSome_none, if_neg Bool.false_ne_true]
      by_cases same : other = name
      · rw [if_pos same, same, found]
        rfl
      · rw [if_neg same]
  | some old =>
      rw [Option.isSome_some, if_pos rfl, get?_insert]
      rfl

/-- Once a value is replaced, what it was no longer counts. -/
theorem replace_congr {left right : ParameterMap α} {name : Text} (value : α)
    (names : left.names = right.names)
    (values : ∀ other, other ≠ name → left.get? other = right.get? other) :
    left.replace name value = right.replace name value := by
  apply ext_get?
  · rw [names_replace, names_replace, names]
  · intro other
    rw [get?_replace, get?_replace]
    by_cases same : other = name
    · rw [if_pos same, if_pos same]
      have together : left.get? name = none ↔ right.get? name = none := by
        rw [get?_eq_none_iff, get?_eq_none_iff, names]
      cases ofLeft : left.get? name with
      | none => rw [together.mp ofLeft]
      | some old =>
          cases ofRight : right.get? name with
          | none =>
              rw [together.mpr ofRight] at ofLeft
              cases ofLeft
          | some other => rfl
    · rw [if_neg same, if_neg same, values other same]

end ConnectionUri.ParameterMap
