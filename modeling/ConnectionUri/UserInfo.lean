import ConnectionUri.Percent.Decode

/-!
# User-info

The user-info of a URI is a name up to the first colon and a password after it. An empty part is
absent.
-/

set_option autoImplicit false

namespace ConnectionUri

/-- A decoded name and password. -/
structure UserInfo where
  username : Option Text
  password : Option Text
  deriving DecidableEq

namespace UserInfo

/-- A text, unless it is empty. -/
def nonempty (text : Text) : Option Text := if text.isEmpty then none else some text

/-- The raw name and password. -/
def rawParts (userInfo : Text) : Text × Text :=
  match Text.cut ':' userInfo with
  | (username, some password) => (username, password)
  | (username, none) => (username, [])

/-- Decodes a user-info; of two failures that of the name counts. -/
def parse (userInfo : Text) : Except Percent.DecodingError UserInfo := do
  let username ← Percent.decode (rawParts userInfo).1
  let password ← Percent.decode (rawParts userInfo).2
  pure ⟨nonempty username, nonempty password⟩

end UserInfo

end ConnectionUri
