import ConnectionUri.Entries

/-!
# Parameter maps

Named values in the order in which the names were first given. Giving a name a new value keeps its
place. No name occurs twice.
-/

set_option autoImplicit false

namespace ConnectionUri

/-- Named values in order, without a repeated name. -/
structure ParameterMap (α : Type) where
  entries : List (Text × α)
  nodup : (entries.map Prod.fst).Nodup
  deriving DecidableEq

namespace ParameterMap

variable {α β : Type}

/-- The map without names. -/
def empty : ParameterMap α := ⟨[], List.nodup_nil⟩

instance : EmptyCollection (ParameterMap α) := ⟨empty⟩

/-- Gives a name a value: it keeps its place, or goes to the end. -/
def insert (map : ParameterMap α) (name : Text) (value : α) : ParameterMap α :=
  ⟨putEntry name value map.entries, nodup_putEntry name value map.nodup⟩

/-- Gives names their values one after another. -/
def insertMany (map : ParameterMap α) (entries : List (Text × α)) : ParameterMap α :=
  entries.foldl (fun map entry => map.insert entry.1 entry.2) map

/-- The map that entries make one after another; of a repeated name the last value counts. -/
def ofList (entries : List (Text × α)) : ParameterMap α := empty.insertMany entries

def get? (map : ParameterMap α) (name : Text) : Option α := map.entries.lookup name

def names (map : ParameterMap α) : List Text := map.entries.map Prod.fst

/-- Whether two maps give the same names the same values, in any order. -/
def agrees [DecidableEq α] (left right : ParameterMap α) : Bool :=
  left.entries.all (fun entry => right.get? entry.1 == some entry.2) &&
    right.entries.all (fun entry => left.get? entry.1 == some entry.2)

/-- A map with one value replaced where its name is present. -/
def replace (map : ParameterMap α) (name : Text) (value : α) : ParameterMap α :=
  if (map.get? name).isSome then map.insert name value else map

/-- A map with every value changed; the names keep their places. -/
def mapValues (change : α → β) (map : ParameterMap α) : ParameterMap β where
  entries := map.entries.map fun entry => (entry.1, change entry.2)
  nodup := by simpa [List.map_map, Function.comp_def] using map.nodup

/-- The name just given has the value just given, and every other name the value it had. -/
@[simp] theorem get?_insert (map : ParameterMap α) (name : Text) (value : α) (other : Text) :
    (map.insert name value).get? other = if other = name then some value else map.get? other :=
  lookup_putEntry name value other map.entries

@[simp] theorem get?_empty (name : Text) : (∅ : ParameterMap α).get? name = none := rfl

/-- A new name goes to the end, and a known one changes no place. -/
@[simp] theorem names_insert (map : ParameterMap α) (name : Text) (value : α) :
    (map.insert name value).names =
      if name ∈ map.names then map.names else map.names ++ [name] :=
  map_fst_putEntry name value map.entries

@[simp] theorem names_mapValues (change : α → β) (map : ParameterMap α) :
    (map.mapValues change).names = map.names := by
  simp [mapValues, names, Function.comp_def]

theorem insertMany_append (map : ParameterMap α) (entries more : List (Text × α)) :
    map.insertMany (entries ++ more) = (map.insertMany entries).insertMany more :=
  List.foldl_append

/-- Entries under new names go to the end as they are. -/
theorem entries_insertMany_of_nodup {map : ParameterMap α} {entries : List (Text × α)}
    (fresh : (map.names ++ entries.map Prod.fst).Nodup) :
    (map.insertMany entries).entries = map.entries ++ entries := by
  induction entries generalizing map with
  | nil => simp [insertMany]
  | cons entry rest ih =>
    obtain ⟨name, value⟩ := entry
    have absent : name ∉ map.names := by
      intro known
      exact (List.nodup_append.mp fresh).2.2 name known name List.mem_cons_self rfl
    have grown : (map.insert name value).names = map.names ++ [name] := by
      rw [names_insert, if_neg absent]
    have appended : (map.insert name value).entries = map.entries ++ [(name, value)] :=
      putEntry_of_not_mem value absent
    have restFresh : ((map.insert name value).names ++ rest.map Prod.fst).Nodup := by
      rw [grown, List.append_assoc]
      exact fresh
    have step := ih restFresh
    rw [appended, List.append_assoc] at step
    exact step

/-- Entries under distinct names are a map as they are. -/
theorem entries_ofList_of_nodup {entries : List (Text × α)}
    (distinct : (entries.map Prod.fst).Nodup) : (ofList entries).entries = entries := by
  have appended : (empty.insertMany entries).entries = empty.entries ++ entries :=
    entries_insertMany_of_nodup distinct
  exact appended

end ParameterMap

end ConnectionUri
