import ConnectionUri.Endpoint
import ConnectionUri.Proofs.Connection.Assembly
import ConnectionUri.Proofs.Connection.Reading
import ConnectionUri.Proofs.Query
import ConnectionUri.Proofs.Uri.Composition
import ConnectionUri.Settings.Basic

/-!
# Endpoints read back

A well-formed endpoint is one whose host and port follow the grammar and whose entries have distinct
names. `configuration_uri` says that its URI is read as its scheme and its entries, in order: no
credential and no parameter, whatever its characters, is taken for a mark on the way.
-/

set_option autoImplicit false

/-!
## Well-formed endpoints
-/

namespace ConnectionUri.Endpoint

open Connection Uri

/-- The entries of an endpoint in the order in which a configuration holds them. -/
def entries (endpoint : Endpoint) : List (Text × Text) :=
  optionalEntry portName (endpoint.port.map fun digits => Text.decimal (Text.decimalValue digits)) ++
    (hostName, endpoint.host) ::
      (endpoint.parameters ++ optionalEntry userName endpoint.username ++
        optionalEntry passwordName endpoint.password)

/-- The endpoints that a URI can say: a scheme, a host that is there, a positive port of no more
digits than are ever converted, credentials that are not empty if they are there, and parameters
under distinct names of their own. -/
structure WellFormed (endpoint : Endpoint) : Prop where
  scheme : isScheme endpoint.scheme = true
  host : IsHost endpoint.host
  hostFilled : endpoint.host ≠ []
  port : IsPort endpoint.port
  portShort : ∀ digits ∈ endpoint.port, digits.length ≤ Text.digitLimit
  portPositive : ∀ digits ∈ endpoint.port, 0 < Text.decimalValue digits
  username : ∀ username ∈ endpoint.username, username ≠ []
  password : ∀ password ∈ endpoint.password, password ≠ []
  distinct : (endpoint.parameters.map Prod.fst).Nodup
  fresh : ∀ name ∈ endpoint.parameters.map Prod.fst,
    name ∉ [portName, hostName, userName, passwordName]

private theorem nodup_names {names : List Text} (distinct : names.Nodup)
    (fresh : ∀ name ∈ names, name ∉ [portName, hostName, userName, passwordName]) :
    (portName :: hostName :: (names ++ [userName, passwordName])).Nodup := by
  have reserved : [portName, hostName, userName, passwordName].Nodup := by decide
  have apart : (names ++ [portName, hostName, userName, passwordName]).Nodup := by
    refine List.nodup_append.mpr ⟨distinct, reserved, ?_⟩
    intro name member other isReserved same
    exact fresh name member (same ▸ isReserved)
  have moved : (names ++ [portName, hostName, userName, passwordName]).Perm
      (portName :: hostName :: (names ++ [userName, passwordName])) :=
    List.perm_middle.trans (List.perm_middle.cons portName)
  exact moved.nodup_iff.mp apart

theorem WellFormed.nodup_entries {endpoint : Endpoint} (wellFormed : endpoint.WellFormed) :
    (endpoint.entries.map Prod.fst).Nodup := by
  refine List.Nodup.sublist ?_ (nodup_names wellFormed.distinct wellFormed.fresh)
  obtain ⟨scheme, username, password, host, port, parameters⟩ := endpoint
  cases port <;> cases username <;> cases password <;> simp [entries, optionalEntry]

end ConnectionUri.Endpoint

/-!
## The URI of an endpoint
-/

namespace ConnectionUri.Endpoint

open Uri

def server (endpoint : Endpoint) : Server := ⟨endpoint.userInfo, endpoint.host, endpoint.port⟩

def parts (endpoint : Endpoint) : Split :=
  ⟨some endpoint.scheme, some endpoint.server.join, ['/'], endpoint.query, none⟩

theorem join_parts (endpoint : Endpoint) : endpoint.parts.join = endpoint.uri := by
  simp only [parts, Split.join, Server.join, server, uri, credentials]
  cases endpoint.userInfo with
  | none => simp [closed, marked]
  | some userInfo => simp [closed, marked]

private theorem spelled_encode_userInfo (text : Text) :
    Spelled isUserInfoChar (Percent.encode text) := by
  apply (Percent.spelled_encode text).mono
  intro char safe
  simp [isUserInfoChar, Percent.isNameChar_of_isSafe safe]

private theorem spelled_userInfo (endpoint : Endpoint) :
    ∀ userInfo ∈ endpoint.userInfo, Spelled isUserInfoChar userInfo := by
  intro userInfo present
  unfold Endpoint.userInfo at present
  split at present
  · cases present
  · cases present
    apply (spelled_encode_userInfo _).append
    cases endpoint.password with
    | none => exact .nil
    | some password => exact .char (by decide) (spelled_encode_userInfo password)

private theorem spelled_query (endpoint : Endpoint) :
    ∀ query ∈ endpoint.query, Spelled isQueryChar query := by
  intro query present
  unfold Endpoint.query at present
  split at present
  · cases present
  · cases present
    exact Query.spelled_render endpoint.parameters

namespace WellFormed

variable {endpoint : Endpoint}

theorem server_legal (wellFormed : endpoint.WellFormed) : endpoint.server.Legal where
  userInfo := spelled_userInfo endpoint
  host := wellFormed.host
  port := wellFormed.port

theorem parts_legal (wellFormed : endpoint.WellFormed) : endpoint.parts.Legal where
  scheme := by
    intro scheme present
    cases present
    exact wellFormed.scheme
  authority := by
    intro authority present
    cases present
    exact .inl ⟨endpoint.server, wellFormed.server_legal, rfl⟩
  path := .char (by decide) .nil
  query := spelled_query endpoint
  fragment := by simp [parts]

/-- The URI of an endpoint decomposes into the pieces that it was written from. -/
theorem decompose_uri (wellFormed : endpoint.WellFormed) :
    decompose endpoint.uri =
      .ok ⟨some endpoint.scheme, endpoint.userInfo, some endpoint.host, portValue endpoint.port,
        endpoint.query⟩ := by
  rw [← join_parts]
  exact decompose_join wellFormed.parts_legal wellFormed.server_legal wellFormed.portShort
    (.inr ⟨[], rfl⟩)

end WellFormed

end ConnectionUri.Endpoint

/-!
## The configuration of an endpoint
-/

namespace ConnectionUri.Endpoint

open Connection Uri

private theorem parse_userInfo (username : Text) (password : Option Text) :
    UserInfo.parse (Percent.encode username ++ marked [':'] (password.map Percent.encode)) =
      .ok ⟨UserInfo.nonempty username, UserInfo.nonempty (password.getD [])⟩ := by
  have absent : ':' ∉ Percent.encode username :=
    (Percent.spelled_encode username).not_mem (by decide)
  have raw : UserInfo.rawParts
      (Percent.encode username ++ marked [':'] (password.map Percent.encode)) =
        (Percent.encode username, Percent.encode (password.getD [])) := by
    cases password with
    | none =>
        have cut : Text.cut ':' (Percent.encode username ++ []) = (Percent.encode username, none) := by
          rw [List.append_nil, Text.cut_of_not_mem absent]
        simp only [UserInfo.rawParts, Option.map_none, marked, cut]
        rfl
    | some password => simp [UserInfo.rawParts, marked, Text.cut_append_cons absent]
  simp only [UserInfo.parse, raw, Percent.decode_encode]
  rfl

private theorem nonempty_getD {text : Option Text} (filled : ∀ value ∈ text, value ≠ []) :
    UserInfo.nonempty (text.getD []) = text := by
  cases text with
  | none => rfl
  | some value => simp [UserInfo.nonempty, filled value rfl]

namespace WellFormed

variable {endpoint : Endpoint}

theorem decodedUserInfo_userInfo (wellFormed : endpoint.WellFormed) :
    decodedUserInfo endpoint.userInfo = .ok ⟨endpoint.username, endpoint.password⟩ := by
  unfold Endpoint.userInfo
  split
  · next absent =>
      simp only [Bool.and_eq_true, Option.isNone_iff_eq_none] at absent
      rw [absent.1, absent.2]
      rfl
  · rw [decodedUserInfo_some, parse_userInfo, nonempty_getD wellFormed.username,
      nonempty_getD wellFormed.password]

theorem decodedQuery_query (wellFormed : endpoint.WellFormed) :
    ∃ query, decodedQuery endpoint.query = .ok query ∧ query.entries = endpoint.parameters := by
  unfold Endpoint.query
  split
  · next empty => exact ⟨∅, rfl, (List.isEmpty_iff.mp empty).symm⟩
  · refine ⟨.ofList endpoint.parameters, ?_, ?_⟩
    · rw [decodedQuery_some, Query.parse_render]
    · exact ParameterMap.entries_ofList_of_nodup wellFormed.distinct

theorem positivePort_portValue (wellFormed : endpoint.WellFormed) :
    (portValue endpoint.port).filter (0 < ·) = endpoint.port.map Text.decimalValue := by
  cases present : endpoint.port with
  | none => rfl
  | some digits =>
      have positive := wellFormed.portPositive digits present
      cases digits with
      | nil => cases positive
      | cons first rest => simp [portValue, positive]

end WellFormed

private theorem orDefault_some {text : Text} (filled : text ≠ []) (default : Text) :
    orDefault default (some text) = text := by
  cases text with
  | nil => exact absurd rfl filled
  | cons first rest => rfl

private theorem filter_permits_default (list : List (Text × Text)) :
    (list.filter fun entry => Settings.default.policy.permits entry.1) = list := by
  rw [List.filter_eq_self]
  intro entry _
  rfl

/-- The URI of a well-formed endpoint gives the scheme and the entries of the endpoint. -/
theorem configuration_uri (endpoint : Endpoint) (wellFormed : endpoint.WellFormed) :
    ∃ found, configuration Settings.default.policy (.text endpoint.uri) = .ok found ∧
      found.protocol = endpoint.scheme ∧ found.parameters.entries = endpoint.entries := by
  obtain ⟨query, decoded, sameEntries⟩ := wellFormed.decodedQuery_query
  refine ⟨assemble Settings.default.policy ⟨some endpoint.scheme, endpoint.userInfo,
    some endpoint.host, portValue endpoint.port, endpoint.query⟩ query
    ⟨endpoint.username, endpoint.password⟩, ?_, ?_, ?_⟩
  · rw [configuration_text, wellFormed.decompose_uri]
    simp only [decoded, wellFormed.decodedUserInfo_userInfo]
  · exact orDefault_some (freeOf_of_isScheme wellFormed.scheme).1 _
  · have written : writes Settings.default.policy ⟨some endpoint.scheme, endpoint.userInfo,
        some endpoint.host, portValue endpoint.port, endpoint.query⟩ query
        ⟨endpoint.username, endpoint.password⟩ = endpoint.entries := by
      simp only [writes, positivePort, wellFormed.positivePort_portValue, sameEntries,
        filter_permits_default, orDefault_some wellFormed.hostFilled, entries, Option.map_map]
      rfl
    rw [assemble_parameters, written]
    exact ParameterMap.entries_ofList_of_nodup wellFormed.nodup_entries

/-- An endpoint whose credentials and parameters hold marks. -/
private def delimited : Endpoint where
  scheme := "amqp".toList
  username := some "a@b:é".toList
  password := some "+%/".toList
  host := "[::1]".toList
  port := some "0567".toList
  parameters := [("k&=".toList, "?# \n".toList), ([], [])]

private theorem delimited_wellFormed : delimited.WellFormed where
  scheme := by decide
  host := by
    have inside : "::1".toList.all isLiteralChar = true := by decide
    exact .literal (by decide) (List.all_eq_true.mp inside)
  hostFilled := by decide
  port := by
    intro digits present
    cases present
    have digitsOnly : "0567".toList.all Char.isDigit = true := by decide
    exact List.all_eq_true.mp digitsOnly
  portShort := by
    intro digits present
    cases present
    decide
  portPositive := by
    intro digits present
    cases present
    decide
  username := by
    intro username present
    cases present
    decide
  password := by
    intro password present
    cases present
    decide
  distinct := by decide
  fresh := by decide

/-- Marks in credentials and parameters are read as they were meant. -/
theorem configuration_delimited :
    delimited.WellFormed ∧ delimited.uri =
      "amqp://a%40b%3A%C3%A9:%2B%25%2F@[::1]:0567/?k%26%3D=%3F%23%20%0A&=".toList ∧
    ∃ found, configuration Settings.default.policy (.text delimited.uri) = .ok found ∧
      found.protocol = "amqp".toList ∧
      found.parameters.entries =
        [("port".toList, "567".toList), ("hostname".toList, "[::1]".toList),
          ("k&=".toList, "?# \n".toList), ([], []), ("username".toList, "a@b:é".toList),
          ("password".toList, "+%/".toList)] :=
  ⟨delimited_wellFormed, by decide, configuration_uri delimited delimited_wellFormed⟩

end ConnectionUri.Endpoint
