import ConnectionUri.Uri.Characters

/-!
# Authorities

An authority is server-based (optional user-info, a host, an optional port) or a name of a
registry. The server form is tried first. One line feed at the end of an authority is not part of a
server form.
-/

set_option autoImplicit false

namespace ConnectionUri.Uri

/-- A server-based authority; the port is its raw text, without the colon. -/
structure Server where
  userInfo : Option Text
  host : Text
  port : Option Text
  deriving DecidableEq

/-- The two kinds of authority. -/
inductive Authority where
  | server (server : Server)
  | registry (name : Text)
  deriving DecidableEq

/-- The port after a host: nothing, or a colon and decimal digits. -/
def port? : Text → Option (Option Text)
  | [] => some none
  | ':' :: digits => if digits.all Char.isDigit then some (some digits) else none
  | _ => none

/-- A host and a port: the host is an address literal in brackets, or a name that may be empty. -/
def hostPort? (text : Text) : Option (Text × Option Text) :=
  match text with
  | '[' :: rest =>
    match Text.cut ']' rest with
    | (literal, some after) =>
      if !literal.isEmpty && literal.all isLiteralChar then
        (port? after).map ('[' :: literal ++ [']'], ·)
      else none
    | (_, none) => none
  | _ =>
    let host := text.takeWhile (· != ':')
    if isSpelled isNameChar host then (port? (text.dropWhile (· != ':'))).map (host, ·) else none

def server? (text : Text) : Option Server :=
  match Text.cut '@' text with
  | (userInfo, some rest) =>
    if isSpelled isUserInfoChar userInfo then
      (hostPort? rest).map fun (host, port) => ⟨some userInfo, host, port⟩
    else none
  | (_, none) => (hostPort? text).map fun (host, port) => ⟨none, host, port⟩

/-- The form of an authority, if it has one. -/
def Authority.ofText? (text : Text) : Option Authority :=
  match server? (Text.dropFinalNewline text) with
  | some form => some (.server form)
  | none =>
    if isSpelled isRegistryChar (Text.dropFinalNewline text) then some (.registry text) else none

end ConnectionUri.Uri
