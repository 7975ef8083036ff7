import ConnectionUri.Outcome
import ConnectionUri.ParameterPolicy
import ConnectionUri.Query
import ConnectionUri.UserInfo

/-!
# Connections

A URI is decomposed, its query and user-info are decoded, and a configuration is put together: the
port and the host first, then the permitted query parameters, then the user name and the password.
A later source wins over an earlier one.
-/

set_option autoImplicit false

namespace ConnectionUri

/-- Why a URI gives no configuration. -/
inductive ConnectionError where
  | invalidUri (error : Uri.SyntaxError)
  | undecodable (error : Percent.DecodingError)
  | portTooLong (error : Uri.PortTooLong)
  deriving DecidableEq

namespace ConnectionError

def ofRefusal : Uri.Refusal → ConnectionError
  | .syntaxError error => .invalidUri error
  | .portTooLong error => .portTooLong error

/-- The report of an error that outcomes hold. A port that is too long is none of them. -/
def report : ConnectionError → Except Uri.PortTooLong ErrorReport
  | .invalidUri error => .ok ⟨.invalidUriSyntax, error.message⟩
  | .undecodable error => .ok ⟨.decoding, error.message⟩
  | .portTooLong error => .error error

end ConnectionError

namespace Connection

def loggerName : Text := "quickconnect.core.connection_parser".toList

/-- The protocol of a URI without a scheme. -/
def defaultProtocol : Text := "ssh".toList

/-- The host of a URI without one. -/
def defaultHost : Text := "localhost".toList

/-- A text that is present and not empty, or a default. -/
def orDefault (default : Text) : Option Text → Text
  | none | some [] => default
  | some text => text

/-- The parameters that the authority alone sets: a positive port, and the host. -/
def authorityParameters (components : Uri.Components) : ParameterMap Text :=
  (match components.port with
    | some (port + 1) => ParameterMap.empty.insert portName (Text.decimal (port + 1))
    | _ => ParameterMap.empty).insert hostName (orDefault defaultHost components.host)

def readQuery : Option Text → Log.Traced ConnectionError (ParameterMap Text)
  | none | some [] => .done ∅
  | some query => (Query.read query).mapError .undecodable

def readUserInfo : Option Text → Log.Traced ConnectionError UserInfo
  | none | some [] => .done ⟨none, none⟩
  | some userInfo => .lift ((UserInfo.parse userInfo).mapError .undecodable)

def droppedRecord (name : Text) : Log.Record :=
  ⟨loggerName, .debug, "Dropping query parameter '%s' not permitted by settings".toList,
    [.text name]⟩

def parsedRecord (configuration : Configuration Text) : Log.Record :=
  ⟨loggerName, .debug, "Parsed %s configuration with parameters: %s".toList,
    [.text configuration.protocol,
     .text (Text.joined ", ".toList configuration.parameters.names)]⟩

/-- A map with a value for a name, if there is a value. -/
def insertIfPresent (map : ParameterMap Text) (name : Text) : Option Text → ParameterMap Text
  | some value => map.insert name value
  | none => map

/-- The configuration of decoded components: every source overwrites the ones before it. -/
def assemble (policy : ParameterPolicy) (components : Uri.Components) (query : ParameterMap Text)
    (userInfo : UserInfo) : Configuration Text where
  protocol := orDefault defaultProtocol components.scheme
  parameters :=
    let fromQuery := (authorityParameters components).insertMany
      (query.entries.filter fun entry => policy.permits entry.1)
    insertIfPresent (insertIfPresent fromQuery userName userInfo.username)
      passwordName userInfo.password

def droppedRecords (policy : ParameterPolicy) (query : ParameterMap Text) : List Log.Record :=
  (query.names.filter fun name => !policy.permits name).map droppedRecord

/-- Reads the configuration of a URI value and leaves the records of every step. -/
def read (policy : ParameterPolicy) (uri : Value) : Log.Traced ConnectionError (Configuration Text) := do
  let components ← (Uri.decomposeValue uri).mapError .ofRefusal
  let query ← readQuery components.query
  Log.Traced.notes (droppedRecords policy query)
  let userInfo ← readUserInfo components.userInfo
  let configuration := assemble policy components query userInfo
  Log.Traced.note (parsedRecord configuration)
  pure configuration

/-- The configuration of a URI value under a policy. -/
def configuration (policy : ParameterPolicy) (uri : Value) :
    Except ConnectionError (Configuration Text) := (read policy uri).result

def failedRecord (report : ErrorReport) : Log.Record :=
  ⟨loggerName, .debug, "Parsing connection URI failed: %s".toList, [.text report.message]⟩

/-- Parses a URI value into an outcome. Only a port that is too long is no outcome. -/
def parse (policy : ParameterPolicy) (uri : Value) : Log.Traced Uri.PortTooLong (Outcome Text) :=
  let run := read policy uri
  match run.result with
  | .ok configuration => ⟨run.records, .ok (.success configuration)⟩
  | .error error =>
    match error.report with
    | .ok report => ⟨run.records ++ [failedRecord report], .ok (.failure report)⟩
    | .error tooLong => ⟨run.records, .error tooLong⟩

/-- Rounds of naming: the configuration of a URI value, then that of its display name, and so on up
to the first failure. -/
def nameChain (policy : ParameterPolicy) : Nat → Value →
    List (Except ConnectionError (Configuration Text))
  | 0, _ => []
  | rounds + 1, uri =>
    match configuration policy uri with
    | .ok found => .ok found :: nameChain policy rounds (.text found.displayName)
    | .error error => [.error error]

end Connection

end ConnectionUri
