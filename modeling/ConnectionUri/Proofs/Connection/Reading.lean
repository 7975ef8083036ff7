import ConnectionUri.Connection

/-!
# The result of reading a connection

`configuration_text` gives the configuration of a text without the records that reading leaves: a
decomposition, the decoded query and the decoded user-info, of which the first failure counts.
`parse_result` gives the outcome from the configuration.
-/

set_option autoImplicit false

namespace ConnectionUri.Connection

/-- The parameters of an optional query; an absent or empty one sets none. -/
def decodedQuery : Option Text → Except Percent.DecodingError (ParameterMap Text)
  | none | some [] => .ok ∅
  | some query => Query.parse query

/-- The decoded parts of an optional user-info; an absent or empty one has none. -/
def decodedUserInfo : Option Text → Except Percent.DecodingError UserInfo
  | none | some [] => .ok ⟨none, none⟩
  | some userInfo => UserInfo.parse userInfo

theorem decodedQuery_some (query : Text) : decodedQuery (some query) = Query.parse query := by
  cases query with
  | nil => rfl
  | cons first rest => rfl

theorem decodedUserInfo_some (userInfo : Text) :
    decodedUserInfo (some userInfo) = UserInfo.parse userInfo := by
  cases userInfo with
  | nil => rfl
  | cons first rest => rfl

theorem mapError_ok {ε δ α : Type} (change : ε → δ) (value : α) :
    (Except.ok value : Except ε α).mapError change = .ok value := rfl

theorem mapError_error {ε δ α : Type} (change : ε → δ) (error : ε) :
    (Except.error error : Except ε α).mapError change = .error (change error) := rfl

theorem result_readQuery (query : Option Text) :
    (readQuery query).result = (decodedQuery query).mapError .undecodable := by
  match query with
  | none => rfl
  | some [] => rfl
  | some (_ :: _) => rfl

theorem result_readUserInfo (userInfo : Option Text) :
    (readUserInfo userInfo).result = (decodedUserInfo userInfo).mapError .undecodable := by
  match userInfo with
  | none => rfl
  | some [] => rfl
  | some (_ :: _) => rfl

theorem result_decomposeValue_text (uri : Text) :
    (Uri.decomposeValue (.text uri)).result = Uri.decompose uri := rfl

/-- Reading a text ends in its decomposition, its query or its user-info if one of them fails, and
in an assembled configuration otherwise. -/
theorem configuration_text (policy : ParameterPolicy) (uri : Text) :
    configuration policy (.text uri) =
      match Uri.decompose uri with
      | .error refusal => .error (.ofRefusal refusal)
      | .ok components =>
        match decodedQuery components.query with
        | .error error => .error (.undecodable error)
        | .ok query =>
          match decodedUserInfo components.userInfo with
          | .error error => .error (.undecodable error)
          | .ok userInfo => .ok (assemble policy components query userInfo) := by
  unfold configuration read
  simp only [Log.Traced.result_bind, Log.Traced.mapError, result_decomposeValue_text,
    result_readQuery, result_readUserInfo]
  cases Uri.decompose uri with
  | error refusal => rfl
  | ok components =>
      simp only [mapError_ok, bind, Except.bind, Log.Traced.notes]
      cases decodedQuery components.query with
      | error error => rfl
      | ok query =>
          simp only []
          cases decodedUserInfo components.userInfo with
          | error error => rfl
          | ok userInfo => rfl

/-- A value that is no text is refused for its type. -/
theorem configuration_of_not_text (policy : ParameterPolicy) {uri : Value}
    (noText : ∀ text, uri ≠ .text text) :
    configuration policy uri = .error (.invalidUri (.notText uri.typeName)) := by
  cases uri with
  | text value => exact absurd rfl (noText value)
  | _ => rfl

/-- Parsing reports a configuration or an error that has a report, and fails with any other. -/
theorem parse_result (policy : ParameterPolicy) (uri : Value) :
    (parse policy uri).result =
      match configuration policy uri with
      | .ok configuration => .ok (.success configuration)
      | .error error => error.report.map .failure := by
  unfold parse configuration
  cases found : (read policy uri).result with
  | ok configuration => simp only [found]
  | error error =>
      simp only [found]
      cases error.report with
      | ok report => rfl
      | error tooLong => rfl

end ConnectionUri.Connection
