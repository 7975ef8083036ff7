import ConnectionUri.Json.Read
import ConnectionUri.Settings.Check
import ConnectionUri.Settings.Merge
import ConnectionUri.Text.LetterCase

/-!
# Settings in the environment

The name of a variable is a field after a fixed beginning, in any case. The field of the policy
holds a JSON object, and its own fields can be given on their own after two underscores; these are
the stronger ones.
-/

set_option autoImplicit false

namespace ConnectionUri.Settings

/-- The variables of an environment: names and values. -/
abbrev Environment := List (Text × Text)

/-- A variable whose value is no JSON where JSON is due, or JSON that nests too deep. -/
inductive EnvironmentError where
  | notJson (field : Text)
  | tooDeep (container : Json.Container)
  deriving DecidableEq

namespace EnvironmentError

/-- The error of a field whose value is not read. -/
def ofReadError (field : Text) : Json.ReadError → EnvironmentError
  | .malformed => .notJson field
  | .tooDeep container => .tooDeep container

def containerName : Json.Container → Text
  | .list => "array".toList
  | .mapping => "object".toList

def message : EnvironmentError → Text
  | .notJson field =>
    "error parsing value for field \"".toList ++ field ++
      "\" from source \"EnvSettingsSource\"".toList
  | .tooDeep container =>
    "maximum recursion depth exceeded while decoding a JSON ".toList ++ containerName container ++
      " from a unicode string".toList

end EnvironmentError

namespace Environment

/-- The beginning of the names that matter, in lower case. -/
def beginning : Text := "quickconnect_".toList

/-- The variables under their names in lower case; of two such names the later value counts. -/
def lowered (environment : Environment) : Environment :=
  environment.foldl (fun found entry => putEntry (Text.lower entry.1) entry.2 found) []

def get? (environment : Environment) (field : Text) : Option Text :=
  environment.lookup (beginning ++ field)

def nestedParts : Text → List Text
  | [] => [[]]
  | '_' :: '_' :: rest => [] :: nestedParts rest
  | char :: rest =>
    match nestedParts rest with
    | [] => [[char]]
    | part :: more => (char :: part) :: more

/-- Sets a value at a path. A value on the way that is no mapping is left alone. -/
def setAt (value : Value) : List Text → Mapping → Mapping
  | [], entries => entries
  | [last], entries => Mapping.insert last value entries
  | key :: path, entries =>
    match Mapping.get? key entries with
    | none => Mapping.insert key (.mapping (setAt value path [])) entries
    | some (.mapping inner) => Mapping.insert key (.mapping (setAt value path inner)) entries
    | some _ => entries

/-- Whether the last part of a name announces JSON: it is a field of the policy, with or without the
beginning of the names once more. -/
def announcesJson (part : Text) : Bool :=
  [allowedField, deniedField].any fun field => part == field || part == beginning ++ field

/-- The value of a nested variable: JSON where the name announces it, unless the text is empty, and
else the text itself. -/
def nestedValue (path : List Text) (text : Text) : Except EnvironmentError Value :=
  match path with
  | [part] =>
    if announcesJson part && !text.isEmpty then
      (Json.read text).mapError (.ofReadError policyField)
    else .ok (.text text)
  | _ => .ok (.text text)

/-- The policy fields that are given on their own. -/
def nested : Environment → Mapping → Except EnvironmentError Mapping
  | [], found => .ok found
  | (name, text) :: rest, found =>
    match Text.afterStart? (beginning ++ policyField ++ "__".toList) name with
    | none => nested rest found
    | some remainder => do
      let path := nestedParts remainder
      let value ← nestedValue path text
      nested rest (setAt value path found)

/-- A key of a policy under the spelling of the field it names in any case. -/
def policyKey (key : Text) : Text :=
  let lowered := Text.lower key
  if [allowedField, deniedField].contains lowered then lowered else key

def withFieldNames (entries : Mapping) : Mapping :=
  entries.foldl (fun found entry => Mapping.insert (policyKey entry.1) entry.2 found) []

/-- The value of the policy field, if anything sets it. -/
def policyValue (found : Environment) : Except EnvironmentError (Option Value) :=
  match found.get? policyField with
  | none => do
    let entries ← nested found []
    pure (if entries.isEmpty then none else some (.mapping (withFieldNames entries)))
  | some text =>
    match Json.read text with
    | .error error => .error (.ofReadError policyField error)
    | .ok .null => .ok none
    | .ok (.mapping entries) => do
      let own ← nested found []
      pure (some (.mapping (withFieldNames (merge own entries))))
    | .ok value => .ok (some value)

/-- A field with a value, or nothing. -/
def entryOf (field : Text) : Option Value → Mapping
  | some value => [(field, value)]
  | none => []

def mapping (environment : Environment) : Except EnvironmentError Mapping := do
  let found := lowered environment
  let policy ← policyValue found
  pure (entryOf levelField ((found.get? levelField).map .text) ++
    entryOf maskField ((found.get? maskField).map .text) ++ entryOf policyField policy)

end Environment

end ConnectionUri.Settings
