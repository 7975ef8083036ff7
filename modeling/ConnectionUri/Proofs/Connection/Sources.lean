import ConnectionUri.Proofs.Connection.Assembly
import ConnectionUri.Proofs.Connection.Reading
import ConnectionUri.Proofs.ParameterMap
import ConnectionUri.Proofs.Query

/-!
# The sources of a configuration

What a text says before a policy is applied to it: its raw components, the entries of its query in
order, and its credentials. `configuration_eq_ok_iff` says that a text has a configuration exactly
when it has these sources, and that the configuration is put together from them.
-/

set_option autoImplicit false

/-!
## Decoded pieces
-/

namespace ConnectionUri.UserInfo

theorem parse_eq_ok_iff {userInfo : Text} {parsed : UserInfo} :
    parse userInfo = .ok parsed ↔ ∃ username password,
      Percent.decode (rawParts userInfo).1 = .ok username ∧
      Percent.decode (rawParts userInfo).2 = .ok password ∧
      parsed = ⟨nonempty username, nonempty password⟩ := by
  unfold parse
  cases Percent.decode (rawParts userInfo).1 with
  | error error => simp [bind, Except.bind]
  | ok username =>
      cases Percent.decode (rawParts userInfo).2 with
      | error error => simp [bind, Except.bind]
      | ok password => simp [bind, Except.bind, pure, Except.pure, eq_comm]

theorem decode_eq_error_of_parse {userInfo : Text} {error : Percent.DecodingError}
    (failed : parse userInfo = .error error) :
    Percent.decode (rawParts userInfo).1 = .error error ∨
      Percent.decode (rawParts userInfo).2 = .error error := by
  unfold parse at failed
  cases ofName : Percent.decode (rawParts userInfo).1 with
  | error cause =>
      rw [ofName] at failed
      exact .inl (congrArg Except.error (Except.error.inj failed))
  | ok username =>
      cases ofPassword : Percent.decode (rawParts userInfo).2 with
      | error cause =>
          rw [ofName, ofPassword] at failed
          exact .inr (congrArg Except.error (Except.error.inj failed))
      | ok password =>
          rw [ofName, ofPassword] at failed
          cases failed

end ConnectionUri.UserInfo

namespace ConnectionUri.Connection

theorem decodedQuery_eq (query : Option Text) :
    decodedQuery query = (Query.entries (Query.segments (query.getD []))).map .ofList := by
  cases query with
  | none =>
      rw [Option.getD_none, Query.segments_nil]
      rfl
  | some query => exact decodedQuery_some query

theorem decodedUserInfo_eq (userInfo : Option Text) :
    decodedUserInfo userInfo = UserInfo.parse (userInfo.getD []) := by
  cases userInfo with
  | none => rfl
  | some userInfo => exact decodedUserInfo_some userInfo

end ConnectionUri.Connection

/-!
## Sources
-/

namespace ConnectionUri.Connection

/-- What a text says to a configuration. Credentials that are absent are empty. -/
structure Sources where
  components : Uri.Components
  pairs : List (Text × Text)
  username : Text
  password : Text

/-- A text decomposes, and every piece of its query and of its user-info decodes. -/
structure HasSources (uri : Text) (sources : Sources) : Prop where
  decomposed : Uri.decompose uri = .ok sources.components
  pairs : Query.entries (Query.segments (sources.components.query.getD [])) = .ok sources.pairs
  username : Percent.decode (UserInfo.rawParts (sources.components.userInfo.getD [])).1 =
    .ok sources.username
  password : Percent.decode (UserInfo.rawParts (sources.components.userInfo.getD [])).2 =
    .ok sources.password

namespace Sources

/-- What the sources write under a policy, one after another. -/
def writes (policy : ParameterPolicy) (sources : Sources) : List (Text × Text) :=
  optionalEntry portName (positivePort sources.components) ++
    (hostName, orDefault defaultHost sources.components.host) ::
      ((sources.pairs.filter fun pair => policy.permits pair.1) ++
        optionalEntry userName (UserInfo.nonempty sources.username) ++
        optionalEntry passwordName (UserInfo.nonempty sources.password))

/-- The configuration of sources under a policy. -/
def configuration (policy : ParameterPolicy) (sources : Sources) : Configuration Text where
  protocol := orDefault defaultProtocol sources.components.scheme
  parameters := .ofList (sources.writes policy)

/-- A query is filtered before it is made a map or after. -/
theorem assemble_eq_configuration (policy : ParameterPolicy) (sources : Sources) :
    assemble policy sources.components (.ofList sources.pairs)
        ⟨UserInfo.nonempty sources.username, UserInfo.nonempty sources.password⟩ =
      sources.configuration policy := by
  have permitted : ((ParameterMap.ofList sources.pairs).entries.filter
      fun entry => policy.permits entry.1) =
      (ParameterMap.ofList (sources.pairs.filter fun pair => policy.permits pair.1)).entries :=
    congrArg ParameterMap.entries (ParameterMap.restrict_ofList policy.permits sources.pairs)
  -- The entries of the query stand between the writes of the authority and of the user-info.
  have sameParameters := ParameterMap.ofList_append_entries_append
    (optionalEntry portName (positivePort sources.components) ++
      [(hostName, orDefault defaultHost sources.components.host)])
    (sources.pairs.filter fun pair => policy.permits pair.1)
    (optionalEntry userName (UserInfo.nonempty sources.username) ++
      optionalEntry passwordName (UserInfo.nonempty sources.password))
  have assembled := assemble_parameters policy sources.components (.ofList sources.pairs)
    ⟨UserInfo.nonempty sources.username, UserInfo.nonempty sources.password⟩
  rw [← permitted] at sameParameters
  simp only [List.append_assoc, List.cons_append, List.nil_append] at sameParameters
  simp only [Connection.writes, List.append_assoc, sameParameters] at assembled
  rw [configuration, Sources.writes, List.append_assoc, ← assembled]
  rfl

end Sources

/-- A text has a configuration exactly when it has sources, and it has that of its sources. -/
theorem configuration_eq_ok_iff {policy : ParameterPolicy} {uri : Text}
    {found : Configuration Text} :
    configuration policy (.text uri) = .ok found ↔
      ∃ sources, HasSources uri sources ∧ found = sources.configuration policy := by
  rw [configuration_text]
  constructor
  · intro read
    cases decomposed : Uri.decompose uri with
    | error refusal => simp [decomposed] at read
    | ok components =>
        simp only [decomposed, decodedQuery_eq, decodedUserInfo_eq] at read
        cases pairs : Query.entries (Query.segments (components.query.getD [])) with
        | error error => simp [pairs, Except.map] at read
        | ok list =>
            cases parsed : UserInfo.parse (components.userInfo.getD []) with
            | error error => simp [pairs, parsed, Except.map] at read
            | ok userInfo =>
                simp only [pairs, parsed, Except.map, Except.ok.injEq] at read
                obtain ⟨username, password, ofName, ofPassword, rfl⟩ :=
                  UserInfo.parse_eq_ok_iff.mp parsed
                refine ⟨⟨components, list, username, password⟩, ⟨decomposed, pairs, ofName,
                  ofPassword⟩, ?_⟩
                rw [← Sources.assemble_eq_configuration, read]
  · intro ⟨sources, has, same⟩
    have parsed := UserInfo.parse_eq_ok_iff.mpr ⟨_, _, has.username, has.password, rfl⟩
    simp only [has.decomposed, decodedQuery_eq, decodedUserInfo_eq, has.pairs, parsed, Except.map]
    rw [same, ← Sources.assemble_eq_configuration]

theorem HasSources.configuration_eq {uri : Text} {sources : Sources} (has : HasSources uri sources)
    (policy : ParameterPolicy) :
    configuration policy (.text uri) = .ok (sources.configuration policy) :=
  configuration_eq_ok_iff.mpr ⟨sources, has, rfl⟩

/-- A text has one list of sources at most. -/
theorem HasSources.unique {uri : Text} {left right : Sources} (ofLeft : HasSources uri left)
    (ofRight : HasSources uri right) : left = right := by
  obtain ⟨components, pairs, username, password⟩ := left
  obtain ⟨otherComponents, otherPairs, otherUsername, otherPassword⟩ := right
  have sameComponents := Except.ok.inj (ofLeft.decomposed.symm.trans ofRight.decomposed)
  simp only at sameComponents
  subst sameComponents
  have samePairs := Except.ok.inj (ofLeft.pairs.symm.trans ofRight.pairs)
  have sameName := Except.ok.inj (ofLeft.username.symm.trans ofRight.username)
  have samePassword := Except.ok.inj (ofLeft.password.symm.trans ofRight.password)
  simp only at samePairs sameName samePassword
  rw [samePairs, sameName, samePassword]

end ConnectionUri.Connection

/-!
## Names and values
-/

namespace ConnectionUri.Connection

theorem lastValue?_optionalEntry (name other : Text) (value : Option Text) :
    lastValue? name (optionalEntry other value) = if name = other then value else none := by
  cases value with
  | none => simp [optionalEntry]
  | some value => exact lastValue?_singleton name other value

namespace Sources

/-- The credentials win over the query, and the query over the authority. -/
theorem get?_configuration (policy : ParameterPolicy) (sources : Sources) (name : Text) :
    (sources.configuration policy).get? name =
      (if name = passwordName then UserInfo.nonempty sources.password else none).or
        ((if name = userName then UserInfo.nonempty sources.username else none).or
          ((if policy.permits name then lastValue? name sources.pairs else none).or
            ((if name = hostName then some (orDefault defaultHost sources.components.host)
                else none).or
              (if name = portName then positivePort sources.components else none)))) := by
  rw [Configuration.get?, configuration, ParameterMap.get?_ofList, writes]
  simp only [lastValue?_append, lastValue?_cons, lastValue?_optionalEntry, Option.or_assoc]
  rw [lastValue?_filter policy.permits]

/-- The names stand in the order of the sources, each where it is written first. -/
theorem names_configuration (policy : ParameterPolicy) (sources : Sources) :
    (sources.configuration policy).parameters.names =
      ((sources.writes policy).map Prod.fst).eraseDups :=
  ParameterMap.names_ofList (sources.writes policy)

end Sources

end ConnectionUri.Connection
