import ConnectionUri.Log.Record
import ConnectionUri.Percent.Utf8
import ConnectionUri.Text.Quoted
import ConnectionUri.Value.LongInteger

/-!
# Settings files

What a settings file gives: a mapping, or nothing with a warning that says why. Bytes that are no
UTF-8 stop the reading, and so does every error of its reader that is neither one of syntax nor one
of access, as with a day that is in no calendar or an integer of too many digits.
-/

set_option autoImplicit false

namespace ConnectionUri.Settings

/-- A mapping as a file holds it. A key that is no text stands as an absent one. -/
abbrev FileMapping := List (Option Text × Value)

/-- An error that the reader of files lets pass, by its kind and its wording. -/
structure ForeignError where
  kind : Text
  message : Text
  deriving DecidableEq

def ForeignError.ofLongInteger (long : LongInteger) : ForeignError :=
  ⟨"ValueError".toList, Text.digitLimitMessage long.digits⟩

/-- What stands at the place of a settings file.

Data stand as settings check them: bytes as their text, a set as the list of its items, and what no
setting takes, such as a date or a long integer that is not in decimal, as a real number that is no
integer. A mapping with other keys than texts is `keyed`; below the top such a key stands as a name
that no setting has. A text is `foreign` when its values cannot be built, as with data that nest too
deep, and so is a place that cannot even be looked at. -/
inductive FileContent where
  | missing
  | directory
  | empty
  | malformed (reason : Text)
  | unreadable (reason : Text)
  | notUtf8 (fault : Utf8.Fault)
  | foreign (error : ForeignError)
  | data (value : Value)
  | keyed (entries : FileMapping)

/-- A settings file. -/
structure SettingsFile where
  path : Text
  content : FileContent

/-- Why a file stops its reader. -/
inductive FileError where
  | undecodable (fault : Utf8.Fault)
  | foreign (error : ForeignError)
  deriving DecidableEq

def FileError.message : FileError → Text
  | .undecodable fault => fault.message
  | .foreign error => error.message

def loggerName : Text := "quickconnect.config.loader".toList

def unreadableRecord (path reason : Text) : Log.Record :=
  ⟨loggerName, .warning, "Ignoring unreadable config file '%s': %s".toList,
    [.text path, .text reason]⟩

/-- The record of a file that holds no mapping. -/
def notMappingRecord (path : Text) : Log.Record :=
  ⟨loggerName, .warning, "Ignoring config file '%s': top level is not a mapping".toList,
    [.text path]⟩

def directoryReason (path : Text) : Text :=
  "[Errno 21] Is a directory: ".toList ++ Text.quoted path

namespace SettingsFile

/-- Whether there is something at the place of a file. What cannot be looked at is left to the
reading, which fails with the same error. -/
def exists? (file : SettingsFile) : Bool :=
  match file.content with
  | .missing => false
  | _ => true

/-- The mapping of a value. A value that counts as nothing is an empty mapping. -/
def mappingOf (file : SettingsFile) : Value → Log.Traced FileError FileMapping
  | .mapping entries => .done (entries.map fun entry => (some entry.1, entry.2))
  | value => if value.isEmpty then .done [] else ⟨[notMappingRecord file.path], .ok []⟩

/-- Goes on with a value unless it holds an integer of too many digits. -/
def building (value : Value) (mapping : Log.Traced FileError FileMapping) :
    Log.Traced FileError FileMapping :=
  match value.longInteger? with
  | some long => .fail (.foreign (.ofLongInteger long))
  | none => mapping

/-- The mapping of a file. -/
def read (file : SettingsFile) : Log.Traced FileError FileMapping :=
  match file.content with
  | .missing | .empty => .done []
  | .directory => ⟨[unreadableRecord file.path (directoryReason file.path)], .ok []⟩
  | .malformed reason | .unreadable reason => ⟨[unreadableRecord file.path reason], .ok []⟩
  | .notUtf8 fault => .fail (.undecodable fault)
  | .foreign error => .fail (.foreign error)
  | .data value => building value (file.mappingOf value)
  | .keyed entries => building (.list (entries.map Prod.snd)) (.done entries)

end SettingsFile

namespace FileMapping

/-- The entries under their names, if all keys are texts. -/
def named? : FileMapping → Option Mapping
  | [] => some []
  | (none, _) :: _ => none
  | (some name, value) :: rest => (named? rest).map ((name, value) :: ·)

end FileMapping

/-- The value of a field in the mapping of a file, with the field's name. An empty mapping has no
fields, and one that is not empty has an absent value for a field that it lacks. -/
def fieldValue (entries : FileMapping) (field : Text) : Option (Option Value × Text) :=
  if entries.isEmpty then none else some (entries.lookup (some field), field)

end ConnectionUri.Settings
