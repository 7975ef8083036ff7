import ConnectionUri.Query
import ConnectionUri.Uri.Split

/-!
# Endpoints

An endpoint names everything that a connection URI can say, and `Endpoint.uri` writes the URI that
says it: credentials and parameters are encoded, the scheme, the host and the digits of the port
stand as they are.
-/

set_option autoImplicit false

namespace ConnectionUri

/-- The parts of a connection URI. The port is given by its digits, leading zeros included. -/
structure Endpoint where
  scheme : Text
  username : Option Text
  password : Option Text
  host : Text
  port : Option Text
  parameters : List (Text × Text)
  deriving DecidableEq

namespace Endpoint

/-- The encoded user-info, left out when both credentials are absent. -/
def userInfo (endpoint : Endpoint) : Option Text :=
  if endpoint.username.isNone && endpoint.password.isNone then none
  else some (Percent.encode (endpoint.username.getD []) ++
    Uri.marked [':'] (endpoint.password.map Percent.encode))

def credentials (endpoint : Endpoint) : Text :=
  match endpoint.userInfo with
  | some userInfo => userInfo ++ ['@']
  | none => []

/-- The query, left out when there are no parameters. -/
def query (endpoint : Endpoint) : Option Text :=
  if endpoint.parameters.isEmpty then none else some (Query.render endpoint.parameters)

/-- The URI of an endpoint. -/
def uri (endpoint : Endpoint) : Text :=
  endpoint.scheme ++ "://".toList ++ endpoint.credentials ++ endpoint.host ++
    Uri.marked [':'] endpoint.port ++ '/' :: Uri.marked ['?'] endpoint.query

end Endpoint

end ConnectionUri
