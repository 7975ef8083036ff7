import ConnectionUri.Log.Record
import ConnectionUri.ParameterMap
import ConnectionUri.Percent.Decode
import ConnectionUri.Percent.Encode

/-!
# Query strings

The segments between ampersands set parameters one after another; an empty segment sets none. A
segment is a name, an equals sign and a value. Without the sign the value is empty, which leaves a
record.
-/

set_option autoImplicit false

namespace ConnectionUri.Query

def loggerName : Text := "quickconnect.core.parsers.query".toList

/-- The non-empty segments of a query. -/
def segments (query : Text) : List Text :=
  (List.splitOn '&' query).filter fun segment => !segment.isEmpty

/-- The raw name and value of a segment. -/
def rawEntry (segment : Text) : Text × Text :=
  match Text.cut '=' segment with
  | (name, some value) => (name, value)
  | (name, none) => (name, [])

/-- The decoded name and value of a segment; of two failures that of the value counts. -/
def entry (segment : Text) : Except Percent.DecodingError (Text × Text) := do
  let value ← Percent.decode (rawEntry segment).2
  let name ← Percent.decode (rawEntry segment).1
  pure (name, value)

def entries : List Text → Except Percent.DecodingError (List (Text × Text))
  | [] => .ok []
  | segment :: rest => do
    let first ← entry segment
    let more ← entries rest
    pure (first :: more)

def parse (query : Text) : Except Percent.DecodingError (ParameterMap Text) :=
  (entries (segments query)).map ParameterMap.ofList

def segment (entry : Text × Text) : Text :=
  Percent.encode entry.1 ++ '=' :: Percent.encode entry.2

/-- A query that sets the entries one after another. -/
def render (entries : List (Text × Text)) : Text :=
  Text.joined ['&'] (entries.map segment)

/-- The record that a segment without a value leaves. -/
def segmentRecords (segment : Text) : List Log.Record :=
  match Text.cut '=' segment with
  | (name, none) => [⟨loggerName, .debug, "Query segment '%s' has no value; using ''".toList,
      [.text name]⟩]
  | _ => []

/-- The records of segments, up to the first that fails. -/
def recordsOf : List Text → List Log.Record
  | [] => []
  | segment :: rest =>
    segmentRecords segment ++
      match entry segment with
      | .ok _ => recordsOf rest
      | .error _ => []

/-- Reads a query and leaves its records. -/
def read (query : Text) : Log.Traced Percent.DecodingError (ParameterMap Text) :=
  ⟨recordsOf (segments query), parse query⟩

end ConnectionUri.Query
