import ConnectionUri.Log.Template
import ConnectionUri.Text.Blank

/-!
# Redaction

Two kinds of credentials are hidden in messages: the value after a key such as `password=`, and the
password in the user-info of a URI. Each kind is found from left to right without overlaps, first
the values after keys in the message, then the passwords of user-infos in what that leaves.
-/

set_option autoImplicit false

namespace ConnectionUri.Log

/-- A credential at the front of a text: what is kept before it, the credential, and what is kept
after it. -/
structure Credential where
  before : Text
  hidden : Text
  after : Text
  deriving DecidableEq

namespace Credential

def mask : Text := "[MASKED_CREDENTIAL]".toList

/-- The number of characters that a credential and its surroundings take up. -/
def size (found : Credential) : Nat :=
  found.before.length + found.hidden.length + found.after.length

/-- The text that stands for a credential and its surroundings. -/
def masked (found : Credential) : Text := found.before ++ mask ++ found.after

end Credential

namespace Redaction

def keys : List Text :=
  ["password".toList, "passwd".toList, "pwd".toList, "token".toList, "secret".toList]

/-- A letter without its case. The long s and the Kelvin sign count as letters s and k. -/
def foldLetter (char : Char) : Char :=
  if char = '\u017f' then 's' else if char = '\u212a' then 'k' else char.toLower

/-- Whether a text begins with a key in any case, and if so what follows the key. -/
def afterKey? : Text → Text → Option Text
  | [], text => some text
  | _ :: _, [] => none
  | letter :: key, char :: rest => if foldLetter char = letter then afterKey? key rest else none

/-- Whether a character may belong to the value after a key. -/
def isValueChar (char : Char) : Bool :=
  !Text.isBlank char && !(['&', ';', ','].contains char)

/-- The value that follows a key, an equals sign or colon, and white space around that sign. -/
def keyedWith? (text key : Text) : Option Credential :=
  match afterKey? key text with
  | none => none
  | some rest =>
    match rest.dropWhile Text.isBlank with
    | [] => none
    | sign :: value =>
      let hidden := (value.dropWhile Text.isBlank).takeWhile isValueChar
      if (sign == '=' || sign == ':') && !hidden.isEmpty then
        some ⟨text.take key.length ++ rest.takeWhile Text.isBlank ++
          sign :: value.takeWhile Text.isBlank, hidden, []⟩
      else none

/-- The value after a key at the front of a text. -/
def keyed? (text : Text) : Option Credential := keys.findSome? (keyedWith? text)

/-- Whether a character may belong to the password of a user-info. -/
def isPasswordChar (char : Char) : Bool :=
  !(['@', '/', '?', '#'].contains char) && !Text.isBlank char

def isUserChar (char : Char) : Bool := char != ':' && isPasswordChar char

/-- The password of a user-info that follows `://` at the front of a text. -/
def userInfo? : Text → Option Credential
  | ':' :: '/' :: '/' :: rest =>
    let name := rest.takeWhile isUserChar
    match rest.dropWhile isUserChar with
    | ':' :: rest =>
      let hidden := rest.takeWhile isPasswordChar
      match rest.dropWhile isPasswordChar with
      | '@' :: _ =>
        if hidden.isEmpty then none else some ⟨"://".toList ++ name ++ [':'], hidden, ['@']⟩
      | _ => none
    | _ => none
  | _ => none

/-- Replaces the credentials that `find?` finds, from left to right, after `skip` characters that
an earlier one took up. -/
def replaceFrom (find? : Text → Option Credential) : Nat → Text → Text
  | _, [] => []
  | skip + 1, _ :: rest => replaceFrom find? skip rest
  | 0, char :: rest =>
    match find? (char :: rest) with
    | some found => found.masked ++ replaceFrom find? (found.size - 1) rest
    | none => char :: replaceFrom find? 0 rest

/-- A message with its credentials hidden. -/
def redact (message : Text) : Text :=
  replaceFrom userInfo? 0 (replaceFrom keyed? 0 message)

end Redaction

def Record.redacted (record : Record) : Except FormatError Record :=
  record.message.map fun message =>
    { record with template := Redaction.redact message, arguments := [] }

end ConnectionUri.Log
