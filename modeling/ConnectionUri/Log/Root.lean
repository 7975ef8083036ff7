import ConnectionUri.Log.Redaction
import ConnectionUri.Text.LetterCase

/-!
# The root logger

The root logger has a level, filters and handlers. A set-up replaces the level and the handlers and
adds a filter where one is missing. A record passes the root's own filters if it was logged on the
root itself, then every handler in turn; a filter changes the record for all that come after it.
-/

set_option autoImplicit false

namespace ConnectionUri.Log

/-- What a filter does to a record. -/
inductive Filter where
  | redaction
  deriving DecidableEq

/-- Where a handler writes. -/
inductive Target where
  | stream
  | file
  deriving DecidableEq

/-- A handler with its own filters. -/
structure Handler where
  target : Target
  filters : List Filter
  deriving DecidableEq

/-- The state of the root logger. -/
structure Root where
  level : Level
  filters : List Filter
  handlers : List Handler
  deriving DecidableEq

/-- A log file that can be opened, or cannot. -/
inductive LogFile where
  | opens
  | fails (reason : Text)
  deriving DecidableEq

/-- Why a set-up fails. -/
inductive SetupError where
  | unknownName (name : Text)
  | notALevel (value : Text)
  | notAnInteger (shown : Text)
  | fileFails (reason : Text)
  deriving DecidableEq

def SetupError.message : SetupError → Text
  | .unknownName name =>
    "module 'logging' has no attribute ".toList ++ [Text.singleQuote] ++ name ++ [Text.singleQuote]
  | .notALevel value => "Unknown level: ".toList ++ Text.quoted value
  | .notAnInteger shown => "Level not an integer or a valid string: ".toList ++ shown
  | .fileFails reason => reason

/-- The name that stands for a text and not for a level. -/
def basicFormatName : Text := "BASIC_FORMAT".toList

/-- The text that `basicFormatName` stands for. -/
def basicFormat : Text := "%(levelname)s:%(name)s:%(message)s".toList

/-- The name that stands for a table and not for a level. -/
def stylesName : Text := "_STYLES".toList

/-- The table that `stylesName` stands for, as it is shown. -/
def styles : Text :=
  "\x7b'%': (<class 'logging.PercentStyle'>, '%(levelname)s:%(name)s:%(message)s'), ".toList ++
    "'\x7b': (<class 'logging.StrFormatStyle'>, ".toList ++
    "'\x7blevelname\x7d:\x7bname\x7d:\x7bmessage\x7d'), ".toList ++
    "'$': (<class 'logging.StringTemplateStyle'>, ".toList ++
    "'$\x7blevelname\x7d:$\x7bname\x7d:$\x7bmessage\x7d')\x7d".toList

def levelOfName (name : Text) : Except SetupError Level :=
  let upper := Text.upper name
  match Level.ofName? upper with
  | some level => .ok level
  | none =>
    if upper = basicFormatName then .error (.notALevel basicFormat)
    else if upper = stylesName then .error (.notAnInteger styles)
    else .error (.unknownName upper)

namespace Root

/-- The root logger before any set-up. -/
def bare : Root := ⟨.warning, [], []⟩

def handlerFilters (masks : Bool) : List Filter := if masks then [.redaction] else []

/-- The filters of the root after a set-up: redaction is added unless it is there. -/
def withRedaction (masks : Bool) (filters : List Filter) : List Filter :=
  if masks && !filters.contains .redaction then filters ++ [.redaction] else filters

/-- Sets the root logger up: the level is set, the handlers are removed, the file is opened, and
the new handlers are added. A failure leaves what was done before it. -/
def setup (levelName : Text) (masks : Bool) (file : Option LogFile) (root : Root) :
    Except SetupError Unit × Root :=
  match levelOfName levelName with
  | .error error => (.error error, root)
  | .ok level =>
    let targets : Except SetupError (List Target) :=
      match file with
      | none => .ok [.stream]
      | some .opens => .ok [.stream, .file]
      | some (.fails reason) => .error (.fileFails reason)
    match targets with
    | .error error => (.error error, { root with level, handlers := [] })
    | .ok targets => (.ok (), {
        level
        filters := withRedaction masks root.filters
        handlers := targets.map fun target => ⟨target, handlerFilters masks⟩ })

def isEnabledFor (root : Root) (level : Level) : Bool :=
  0 < level.severity && root.level.severity ≤ level.severity

end Root

/-- A text written to a target. -/
structure Write where
  target : Target
  text : Text
  deriving DecidableEq

/-- What handling a record writes, and the formatting error that a filter raised, if one did. -/
structure Emission where
  writes : List Write
  error : Option FormatError
  deriving DecidableEq

/-- A record after filters. -/
def applyFilters : List Filter → Record → Except FormatError Record
  | [], record => .ok record
  | .redaction :: rest, record => do
    let redacted ← record.redacted
    applyFilters rest redacted

/-- The line of a record: time stamp, logger, level and message. -/
def line (stamp : Text) (record : Record) (message : Text) : Text :=
  Text.joined " - ".toList [stamp, record.logger, record.level.name, message] ++ ['\n']

/-- What one handler writes. A record that cannot be formatted is dropped. -/
def Handler.write (stamp : Text) (handler : Handler) (record : Record) : List Write :=
  match record.message with
  | .ok message => [⟨handler.target, line stamp record message⟩]
  | .error _ => []

def passTo (stamp : Text) : List Handler → Record → Emission
  | [], _ => ⟨[], none⟩
  | handler :: rest, record =>
    match applyFilters handler.filters record with
    | .error error => ⟨[], some error⟩
    | .ok filtered =>
      let later := passTo stamp rest filtered
      ⟨handler.write stamp filtered ++ later.writes, later.error⟩

/-- Without handlers the bare message of a warning or worse goes to the stream. -/
def lastResort (record : Record) : Emission :=
  if record.level.severity < Level.severity .warning then ⟨[], none⟩
  else
    match record.message with
    | .ok message => ⟨[⟨.stream, message ++ ['\n']⟩], none⟩
    | .error _ => ⟨[], none⟩

def Root.log (root : Root) (stamp : Text) (record : Record) : Emission :=
  if !root.isEnabledFor record.level then ⟨[], none⟩
  else
    let filtered :=
      if record.isRoot then applyFilters root.filters record else .ok record
    match filtered with
    | .error error => ⟨[], some error⟩
    | .ok record =>
      if root.handlers.isEmpty then lastResort record else passTo stamp root.handlers record

end ConnectionUri.Log
