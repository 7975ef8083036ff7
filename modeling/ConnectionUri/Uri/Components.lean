import ConnectionUri.Log.Record
import ConnectionUri.Text.Quoted
import ConnectionUri.Uri.Authority
import ConnectionUri.Uri.Split

/-!
# Decomposition

A URI is split, its components are checked in a fixed order, and its raw connection components are
kept. Each checked component may end in one line feed.
-/

set_option autoImplicit false

namespace ConnectionUri.Uri

/-- The raw components that a connection needs. -/
structure Components where
  scheme : Option Text
  userInfo : Option Text
  host : Option Text
  port : Option Nat
  query : Option Text
  deriving DecidableEq

/-- The components that are checked. -/
inductive Part where
  | scheme
  | path
  | query
  | fragment
  | authority
  deriving DecidableEq

/-- Why a value is no URI. -/
inductive SyntaxError where
  | notText (typeName : Text)
  | illegal (part : Part) (uri : Text)
  deriving DecidableEq

namespace SyntaxError

/-- What is wrong with a component. -/
def complaint : Part → Text
  | .scheme => "illegal scheme in ".toList
  | .path => "illegal character in path of ".toList
  | .query => "illegal character in query of ".toList
  | .fragment => "illegal character in fragment of ".toList
  | .authority => "illegal character in authority of ".toList

def message : SyntaxError → Text
  | .notText typeName => "Invalid URI Syntax: expected a string, got ".toList ++ typeName
  | .illegal part uri => "Invalid URI Syntax: ".toList ++ complaint part ++ Text.quoted uri

end SyntaxError

/-- A port with more digits than are ever converted to a number. -/
structure PortTooLong where
  digits : Nat
  deriving DecidableEq

namespace PortTooLong

def message (error : PortTooLong) : Text := Text.digitLimitMessage error.digits

end PortTooLong

/-- Why a value does not decompose. -/
inductive Refusal where
  | syntaxError (error : SyntaxError)
  | portTooLong (error : PortTooLong)
  deriving DecidableEq

def loggerName : Text := "quickconnect.core.uri".toList

def argument : Option Text → Value
  | some text => .text text
  | none => .null

/-- Whether a component is legal up to one line feed at its end. -/
def isLegal (check : Text → Bool) : Option Text → Bool
  | some text => check (Text.dropFinalNewline text)
  | none => true

/-- The number that a port stands for; an empty or absent port stands for none. -/
def portNumber : Option Text → Except PortTooLong (Option Nat)
  | none | some [] => .ok none
  | some digits =>
    if digits.length > Text.digitLimit then .error ⟨digits.length⟩
    else .ok (some (Text.decimalValue digits))

/-- The first component that is illegal, in the order of the checks. -/
def illegalPart? (parts : Split) : Option Part :=
  if !isLegal isScheme parts.scheme then some .scheme
  else if !isLegal (isSpelled isPathChar) (some parts.path) then some .path
  else if !isLegal (isSpelled isQueryChar) parts.query then some .query
  else if !isLegal (isSpelled isQueryChar) parts.fragment then some .fragment
  else match parts.authority with
    | none => none
    | some authority => if (Authority.ofText? authority).isNone then some .authority else none

/-- The server of a split, if its authority is server-based. -/
def serverOf? (parts : Split) : Option Server :=
  match parts.authority.bind Authority.ofText? with
  | some (.server server) => some server
  | _ => none

/-- The raw connection components of a text. -/
def decompose (uri : Text) : Except Refusal Components :=
  let parts := split uri
  match illegalPart? parts with
  | some part => .error (.syntaxError (.illegal part uri))
  | none =>
    let server := serverOf? parts
    match portNumber (server.bind Server.port) with
    | .error error => .error (.portTooLong error)
    | .ok port => .ok {
        scheme := parts.scheme
        userInfo := server.bind Server.userInfo
        host := server.map Server.host
        port := port
        query := parts.query }

def textOf : Value → Except Refusal Text
  | .text uri => .ok uri
  | value => .error (.syntaxError (.notText value.typeName))

def portArgument : Option Nat → Value
  | some port => .integer (Int.ofNat port)
  | none => .integer (-1)

/-- The record that an authority without a server leaves. -/
def registryRecord (name : Text) : Log.Record :=
  ⟨loggerName, .debug, "Authority '%s' is not server-based; host left unset".toList, [.text name]⟩

def decomposedRecord (components : Components) : Log.Record :=
  ⟨loggerName, .debug, "Decomposed URI: scheme=%s host=%s port=%d query=%s".toList,
    [argument components.scheme, argument components.host, portArgument components.port,
     argument components.query]⟩

/-- The records that the decomposition of a text leaves; a refused text leaves none. -/
def decomposeRecords (uri : Text) : List Log.Record :=
  match decompose uri with
  | .error _ => []
  | .ok components =>
    (match (split uri).authority.bind Authority.ofText? with
      | some (.registry name) => [registryRecord name]
      | _ => []) ++ [decomposedRecord components]

def decomposeValue (uri : Value) : Log.Traced Refusal Components :=
  match textOf uri with
  | .error refusal => .fail refusal
  | .ok text => ⟨decomposeRecords text, decompose text⟩

end ConnectionUri.Uri
