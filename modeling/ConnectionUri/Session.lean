import ConnectionUri.Connection
import ConnectionUri.Settings.Check

/-!
# Sessions

A session holds the policy of its settings and a parser that was made from them. The two share one
policy until the settings get another one; from then on the parser keeps the one it had. A list that
is assigned is checked, while anything can be added to a list.
-/

set_option autoImplicit false

namespace ConnectionUri

/-- The policy of the settings, and the parser's own policy once the two are apart. -/
structure Session where
  current : ParameterPolicy
  kept : Option ParameterPolicy

namespace Session

/-- A session whose parser shares the policy of the settings. -/
def start (policy : ParameterPolicy) : Session := ⟨policy, none⟩

def parserPolicy (session : Session) : ParameterPolicy := session.kept.getD session.current

/-- The lists of a policy. -/
inductive Field where
  | allowed
  | denied
  deriving DecidableEq

def Field.ofName? (name : Text) : Option Field :=
  if name = Settings.allowedField then some .allowed
  else if name = Settings.deniedField then some .denied
  else none

/-- A policy with one list changed. -/
def Field.update (field : Field) (change : List Value → List Value) (policy : ParameterPolicy) :
    ParameterPolicy :=
  match field with
  | .allowed => { policy with allowed := change policy.allowed }
  | .denied => { policy with denied := change policy.denied }

/-- Whether a name is private. A private name is no field, and anything can be assigned to it. -/
def isPrivate (name : Text) : Bool := name.head? == some '_'

/-- Assigns a list of the settings' policy after checking it. -/
def set (session : Session) (name : Text) (value : Value) : Settings.Checked Session :=
  match Field.ofName? name with
  | none => if isPrivate name then .ok session else .error [⟨[.field name], .noSuchAttribute⟩]
  | some field =>
    (Settings.checkTexts [.field name] value).map fun texts =>
      { session with current := field.update (fun _ => texts.map .text) session.current }

def append (session : Session) (field : Field) (value : Value) : Session :=
  { session with current := field.update (· ++ [value]) session.current }

/-- Gives the settings a new policy; the parser keeps the one it has. -/
def replace (session : Session) (fields : Mapping) : Settings.Checked Session :=
  (Settings.checkPolicyFields [] fields).map fun policy => ⟨policy, some session.parserPolicy⟩

/-- The configuration of a URI value under the parser's policy. -/
def configuration (session : Session) (uri : Value) : Except ConnectionError (Configuration Text) :=
  Connection.configuration session.parserPolicy uri

/-- The outcome of a URI value under the parser's policy. -/
def parse (session : Session) (uri : Value) : Except Uri.PortTooLong (Outcome Text) :=
  (Connection.parse session.parserPolicy uri).result

/-- What can be asked of a session. -/
inductive Request where
  | configuration (uri : Value)
  | parse (uri : Value)
  | displayName (uri : Value)
  | permits (name : Text)
  | set (name : Text) (value : Value)
  | append (name : Text) (value : Value)
  | replace (value : Value)

/-- Why a change cannot even be tried. -/
inductive ChangeError where
  | unknownField (name : Text)
  | notAList
  | notAMapping (typeName : Text)
  deriving DecidableEq

def ChangeError.message : ChangeError → Text
  | .unknownField name =>
    "'ParameterSettings' object has no attribute ".toList ++ Text.quoted name
  | .notAList => "'method' object has no attribute 'append'".toList
  | .notAMapping typeName =>
    "quickconnect.config.parameters.ParameterSettings() argument after ** must be a mapping, not ".toList
      ++ typeName

/-- The question that a policy answers; it has a name among the fields but is no list. -/
def questionName : Text := "permits".toList

/-- What a session answers. A change answers with nothing but its success. -/
inductive Reply where
  | configuration (result : Except ConnectionError (Configuration Text))
  | outcome (result : Except Uri.PortTooLong (Outcome Text))
  | displayName (result : Except ConnectionError Text)
  | permitted (answer : Bool)
  | changed
  | refused (problems : List Settings.Problem)
  | failed (error : ChangeError)

/-- The session after a checked change; a refused change leaves it as it was. -/
def afterChange (session : Session) : Settings.Checked Session → Session × Reply
  | .ok changed => (changed, .changed)
  | .error problems => (session, .refused problems)

def serve (session : Session) : Request → Session × Reply
  | .configuration uri => (session, .configuration (session.configuration uri))
  | .parse uri => (session, .outcome (session.parse uri))
  | .displayName uri =>
    (session, .displayName ((session.configuration uri).map Configuration.displayName))
  | .permits name => (session, .permitted (session.parserPolicy.permits name))
  | .set name value => session.afterChange (session.set name value)
  | .append name value =>
    match Field.ofName? name with
    | some field => (session.append field value, .changed)
    | none =>
      (session, .failed (if name = questionName then .notAList else .unknownField name))
  | .replace (.mapping fields) => session.afterChange (session.replace fields)
  | .replace value => (session, .failed (.notAMapping value.typeName))

def serveAll : Session → List Request → Session × List Reply
  | session, [] => (session, [])
  | session, request :: rest =>
    let (next, reply) := session.serve request
    let (last, replies) := serveAll next rest
    (last, reply :: replies)

end Session

end ConnectionUri
