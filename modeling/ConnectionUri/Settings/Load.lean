import ConnectionUri.Settings.Environment
import ConnectionUri.Settings.File

/-!
# Loading settings

Three sources give settings: initial values, the environment and a file, the strongest first. They
are merged and then checked as a whole. Initial values name their fields in any case; the fields of
a file have one spelling. A file that makes the whole invalid is left out, with a warning. Every other
error of a file is an error of the load.
-/

set_option autoImplicit false

namespace ConnectionUri.Settings

/-- Why settings cannot be built. A key that is no text names no setting. -/
inductive LoadError where
  | invalid (problems : List Problem)
  | environment (error : EnvironmentError)
  | file (error : FileError)
  | unnamed
  deriving DecidableEq

/-- The wording of a mapping with a key that is no text. -/
def unnamedMessage : Text := "keywords must be strings".toList

/-- Where the file of loaded settings stands. -/
inductive Origin where
  | given
  | default
  | none
  deriving DecidableEq

def mappingOfFile : Option SettingsFile → Log.Traced LoadError FileMapping
  | some file => file.read.mapError .file
  | none => .done []

def namedEntries (entries : FileMapping) : Except LoadError Mapping :=
  match entries.named? with
  | some named => .ok named
  | none => .error .unnamed

/-- The initial value of a field: that of the first name that is the field in any case. -/
def initialValue? (initial : Mapping) (field : Text) : Option Value :=
  (initial.find? fun entry => Text.lower entry.1 == field).map Prod.snd

/-- The fields that initial values set. Names that are no field do not matter. -/
def initialFields (initial : Mapping) : Mapping :=
  fieldNames.filterMap fun field => (initialValue? initial field).map (field, ·)

/-- Builds settings from initial values, the environment and a file. The file is read first, but its
keys come last. -/
def build (initial : Mapping) (environment : Environment) (file : Option SettingsFile) :
    Log.Traced LoadError Settings := do
  let fromFile ← mappingOfFile file
  let fromEnvironment ← Log.Traced.lift (environment.mapping.mapError .environment)
  let named ← Log.Traced.lift (namedEntries fromFile)
  Log.Traced.lift
    ((ofMapping (merge (merge (initialFields initial) fromEnvironment) named)).mapError .invalid)

/-- The name that initial values cannot have, since the file is given on its own. -/
def fileName : Text := "config_file".toList

/-- The wording of a file that is given among the initial values as well. -/
def fileGivenTwice : Text :=
  "quickconnect.config.Settings() got multiple values for keyword argument ".toList ++
    Text.quoted fileName

/-- The record of a default file that does not exist. -/
def noDefaultRecord (path : Text) : Log.Record :=
  ⟨loggerName, .debug, "No config file at '%s'; using defaults".toList, [.text path]⟩

def invalidRecord (path : Text) (problems : List Problem) : Log.Record :=
  ⟨loggerName, .warning, "Ignoring invalid config file '%s': %s".toList,
    [.text path, .text (Json.line (.list ((sortProblems problems).map Problem.toValue)))]⟩

/-- The file to load: a given one, else the default one if it exists. -/
def chooseFile (given : Option SettingsFile) (default : SettingsFile) :
    Log.Traced LoadError (Option SettingsFile × Origin) :=
  match given with
  | some file => .done (some file, .given)
  | none =>
    if default.exists? then .done (some default, .default)
    else ⟨[noDefaultRecord default.path], .ok (none, .none)⟩

/-- Builds settings from the environment and a chosen file. When these are invalid and there is a
file, the environment alone counts. -/
def buildOrFallBack (environment : Environment) (chosen : Option SettingsFile × Origin) :
    Log.Traced LoadError (Settings × Origin) :=
  let first := build [] environment chosen.1
  match first.result, chosen.1 with
  | .ok settings, _ => ⟨first.records, .ok (settings, chosen.2)⟩
  | .error (.invalid problems), some file =>
    let second := build [] environment none
    ⟨first.records ++ invalidRecord file.path problems :: second.records,
      second.result.map (·, .none)⟩
  | .error error, _ => ⟨first.records, .error error⟩

def load (given : Option SettingsFile) (default : SettingsFile) (environment : Environment) :
    Log.Traced LoadError (Settings × Origin) := do
  let chosen ← chooseFile given default
  buildOrFallBack environment chosen

end ConnectionUri.Settings
