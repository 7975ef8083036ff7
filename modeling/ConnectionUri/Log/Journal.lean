import ConnectionUri.Log.Root

/-!
# Journals

A journal is the root logger together with what it has written: the text of the stream, and the
text of the log file once there is one.
-/

set_option autoImplicit false

namespace ConnectionUri.Log

/-- The root logger and what was written. -/
structure Journal where
  root : Root
  stream : Text
  file : Option Text
  deriving DecidableEq

namespace Journal

/-- The journal before any set-up. -/
def empty : Journal := ⟨.bare, [], none⟩

/-- Sets the root logger up. A log file that opens exists from then on, and keeps what it holds. -/
def setup (journal : Journal) (levelName : Text) (masks : Bool) (file : Option LogFile) :
    Except SetupError Unit × Journal :=
  let (result, root) := journal.root.setup levelName masks file
  let opened : Option Text :=
    match result, file with
    | .ok (), some .opens => some (journal.file.getD [])
    | _, _ => journal.file
  (result, { journal with root, file := opened })

def write (journal : Journal) (entry : Write) : Journal :=
  match entry.target with
  | .stream => { journal with stream := journal.stream ++ entry.text }
  | .file => { journal with file := journal.file.map (· ++ entry.text) }

/-- Logs a record; answers the formatting error that a filter raised, if one did. -/
def log (journal : Journal) (stamp : Text) (record : Record) : Option FormatError × Journal :=
  let emission := journal.root.log stamp record
  (emission.error, emission.writes.foldl write journal)

/-- Logs records in order, up to the first formatting error. -/
def logAll (stamp : Text) : Journal → List Record → Option FormatError × Journal
  | journal, [] => (none, journal)
  | journal, record :: rest =>
    match journal.log stamp record with
    | (some error, journal) => (some error, journal)
    | (none, journal) => logAll stamp journal rest

end Journal

end ConnectionUri.Log
