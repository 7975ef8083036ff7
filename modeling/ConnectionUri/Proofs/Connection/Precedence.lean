import ConnectionUri.Proofs.Connection.Sources
import ConnectionUri.Proofs.Uri.Decomposition

/-!
# Which source wins

`Gives` says which source gives a name its value: the credentials before the query, the query before
the authority, and of the entries of the query the last. `configuration_precedence` says that a
configuration holds exactly what is given in this way, under names in the order of their first
writes.
-/

set_option autoImplicit false

namespace ConnectionUri.Connection

namespace Sources

/-- The user-info sets the name to a text that is not empty. -/
def HasCredential (sources : Sources) (name : Text) : Prop :=
  name = userName ∧ sources.username ≠ [] ∨ name = passwordName ∧ sources.password ≠ []

/-- The query sets the name, and the policy lets it. -/
def HasParameter (policy : ParameterPolicy) (sources : Sources) (name : Text) : Prop :=
  policy.permits name = true ∧ name ∈ sources.pairs.map Prod.fst

/-- The value that the strongest source of a name gives it. -/
inductive Gives (policy : ParameterPolicy) (sources : Sources) : Text → Text → Prop where
  | username : sources.username ≠ [] → Gives policy sources userName sources.username
  | password : sources.password ≠ [] → Gives policy sources passwordName sources.password
  | query {name value : Text} {before after : List (Text × Text)} :
      ¬ sources.HasCredential name → policy.permits name = true →
      sources.pairs = before ++ (name, value) :: after → name ∉ after.map Prod.fst →
      Gives policy sources name value
  | host {host : Text} :
      ¬ sources.HasParameter policy hostName → sources.components.host = some host → host ≠ [] →
      Gives policy sources hostName host
  | defaultHost :
      ¬ sources.HasParameter policy hostName → (∀ host ∈ sources.components.host, host = []) →
      Gives policy sources hostName "localhost".toList
  | port {port : Nat} :
      ¬ sources.HasParameter policy portName → sources.components.port = some port → 0 < port →
      Gives policy sources portName (Text.decimal port)

/-- The names that the sources write, one after another. -/
def writtenNames (policy : ParameterPolicy) (sources : Sources) : List Text :=
  (if 0 < sources.components.port.getD 0 then [portName] else []) ++
    hostName :: ((sources.pairs.map Prod.fst).filter policy.permits ++
      (if sources.username = [] then [] else [userName]) ++
      (if sources.password = [] then [] else [passwordName]))

end Sources

/-!
## Values
-/

theorem nonempty_eq_some_iff {text value : Text} :
    UserInfo.nonempty text = some value ↔ text ≠ [] ∧ value = text := by
  cases text with
  | nil => simp [UserInfo.nonempty]
  | cons first rest => simp [UserInfo.nonempty, eq_comm]

theorem nonempty_eq_none_iff {text : Text} : UserInfo.nonempty text = none ↔ text = [] := by
  cases text with
  | nil => simp [UserInfo.nonempty]
  | cons first rest => simp [UserInfo.nonempty]

theorem positivePort_eq_some_iff {components : Uri.Components} {value : Text} :
    positivePort components = some value ↔
      ∃ port, components.port = some port ∧ 0 < port ∧ value = Text.decimal port := by
  unfold positivePort
  cases components.port with
  | none => simp
  | some port =>
      by_cases positive : 0 < port
      · simp [Option.filter, positive, eq_comm]
      · simp [Option.filter, positive]

theorem orDefault_eq_getD {default : Text} {text : Option Text} (filled : ∀ value ∈ text, value ≠ []) :
    orDefault default text = text.getD default := by
  match text with
  | none => rfl
  | some [] => exact absurd rfl (filled [] rfl)
  | some (_ :: _) => rfl

namespace Sources

variable {policy : ParameterPolicy} {sources : Sources} {name value : Text}

theorem not_hasCredential_iff : ¬ sources.HasCredential name ↔
    (if name = passwordName then UserInfo.nonempty sources.password else none) = none ∧
      (if name = userName then UserInfo.nonempty sources.username else none) = none := by
  simp only [HasCredential, not_or, not_and, ite_eq_right_iff, nonempty_eq_none_iff, ne_eq,
    Decidable.not_not]
  exact And.comm

theorem not_hasParameter_iff : ¬ sources.HasParameter policy name ↔
    (if policy.permits name then lastValue? name sources.pairs else none) = none := by
  simp only [HasParameter, not_and, ite_eq_right_iff, lastValue?_eq_none_iff]

theorem not_hasCredential_of_ne (sources : Sources) (noUser : name ≠ userName)
    (noPassword : name ≠ passwordName) : ¬ sources.HasCredential name := by
  rintro (⟨same, -⟩ | ⟨same, -⟩)
  · exact noUser same
  · exact noPassword same

theorem get?_hostName (unset : ¬ sources.HasParameter policy hostName) :
    (sources.configuration policy).get? hostName =
      some (orDefault Connection.defaultHost sources.components.host) := by
  obtain ⟨noPassword, noUser⟩ := not_hasCredential_iff.mp
    (sources.not_hasCredential_of_ne (show hostName ≠ userName by decide) (by decide))
  rw [get?_configuration, noPassword, noUser, not_hasParameter_iff.mp unset, if_pos rfl]
  rfl

theorem get?_portName (unset : ¬ sources.HasParameter policy portName) :
    (sources.configuration policy).get? portName = positivePort sources.components := by
  obtain ⟨noPassword, noUser⟩ := not_hasCredential_iff.mp
    (sources.not_hasCredential_of_ne (show portName ≠ userName by decide) (by decide))
  have other : portName ≠ hostName := by decide
  rw [get?_configuration, noPassword, noUser, not_hasParameter_iff.mp unset, if_neg other,
    if_pos rfl]
  rfl

theorem Gives.get? (gives : sources.Gives policy name value) :
    (sources.configuration policy).get? name = some value := by
  cases gives with
  | username filled =>
      have other : userName ≠ passwordName := by decide
      rw [get?_configuration, if_neg other, if_pos rfl, nonempty_eq_some_iff.mpr ⟨filled, rfl⟩]
      rfl
  | password filled =>
      rw [get?_configuration, if_pos rfl, nonempty_eq_some_iff.mpr ⟨filled, rfl⟩]
      rfl
  | @query _ _ before after free permitted split absent =>
      obtain ⟨noPassword, noUser⟩ := not_hasCredential_iff.mp free
      have last := lastValue?_eq_some_iff.mpr ⟨before, after, split, absent⟩
      rw [get?_configuration, noPassword, noUser, if_pos permitted, last]
      rfl
  | host unset present filled =>
      rw [get?_hostName unset, orDefault_eq_getD (by rw [present]; rintro _ ⟨⟩; exact filled),
        present]
      rfl
  | defaultHost unset absent =>
      rw [get?_hostName unset]
      cases present : sources.components.host with
      | none => rfl
      | some host =>
          rw [absent host present]
          rfl
  | port unset present positive =>
      rw [get?_portName unset]
      exact positivePort_eq_some_iff.mpr ⟨_, present, positive, rfl⟩

theorem gives_of_get? (found : (sources.configuration policy).get? name = some value) :
    sources.Gives policy name value := by
  -- One source after another either gives the value or has none.
  rw [get?_configuration] at found
  rcases Option.or_eq_some_iff.mp found with ofPassword | ⟨noPassword, found⟩
  · obtain ⟨same, given⟩ := Option.ite_none_right_eq_some.mp ofPassword
    obtain ⟨filled, rfl⟩ := nonempty_eq_some_iff.mp given
    exact same ▸ .password filled
  rcases Option.or_eq_some_iff.mp found with ofName | ⟨noUser, found⟩
  · obtain ⟨same, given⟩ := Option.ite_none_right_eq_some.mp ofName
    obtain ⟨filled, rfl⟩ := nonempty_eq_some_iff.mp given
    exact same ▸ .username filled
  rcases Option.or_eq_some_iff.mp found with ofQuery | ⟨unset, found⟩
  · obtain ⟨permitted, given⟩ := Option.ite_none_right_eq_some.mp ofQuery
    obtain ⟨before, after, split, absent⟩ := lastValue?_eq_some_iff.mp given
    exact .query (not_hasCredential_iff.mpr ⟨noPassword, noUser⟩) permitted split absent
  rcases Option.or_eq_some_iff.mp found with ofHost | ⟨-, ofPort⟩
  · obtain ⟨rfl, given⟩ := Option.ite_none_right_eq_some.mp ofHost
    obtain rfl := Option.some.inj given
    have unsetHost := not_hasParameter_iff.mpr unset
    match present : sources.components.host with
    | none => exact .defaultHost unsetHost (by simp [present])
    | some [] => exact .defaultHost unsetHost (by simp [present])
    | some (first :: rest) => exact .host unsetHost present (List.cons_ne_nil first rest)
  · obtain ⟨rfl, given⟩ := Option.ite_none_right_eq_some.mp ofPort
    obtain ⟨port, present, positive, rfl⟩ := positivePort_eq_some_iff.mp given
    exact .port (not_hasParameter_iff.mpr unset) present positive

theorem get?_eq_some_iff_gives :
    (sources.configuration policy).get? name = some value ↔ sources.Gives policy name value :=
  ⟨gives_of_get?, Gives.get?⟩

end Sources

/-!
## Order
-/

private theorem map_fst_optionalEntry (name : Text) (value : Option Text) :
    (optionalEntry name value).map Prod.fst = if value.isSome then [name] else [] := by
  cases value <;> rfl

namespace Sources

theorem map_fst_writes (policy : ParameterPolicy) (sources : Sources) :
    (sources.writes policy).map Prod.fst = sources.writtenNames policy := by
  have ofPort : (positivePort sources.components).isSome =
      decide (0 < sources.components.port.getD 0) := by
    unfold positivePort
    cases sources.components.port with
    | none => rfl
    | some port => by_cases positive : 0 < port <;> simp [Option.filter, positive]
  have ofText : ∀ (name text : Text), (optionalEntry name (UserInfo.nonempty text)).map Prod.fst =
      if text = [] then [] else [name] := by
    intro name text
    cases text <;> rfl
  rw [writes, writtenNames, List.map_append, List.map_cons, List.map_append, List.map_append,
    map_fst_optionalEntry, ofText, ofText, ofPort, List.filter_map]
  simp only [decide_eq_true_eq]
  rfl

end Sources

/-!
## Components without influence
-/

theorem ofSplit_of_path_fragment (parts : Uri.Split) (path : Text) (fragment : Option Text) :
    Uri.Components.ofSplit { parts with path, fragment } = .ofSplit parts := rfl

theorem HasSources.of_path_fragment {uri other : Text} {sources : Sources}
    (has : HasSources uri sources) {path : Text} {fragment : Option Text}
    (same : Uri.split other = { Uri.split uri with path, fragment })
    (accepted : ∃ components, Uri.decompose other = .ok components) : HasSources other sources := by
  obtain ⟨components, decomposed⟩ := accepted
  obtain ⟨-, -, ofOther⟩ := Uri.decompose_eq_ok_iff.mp decomposed
  obtain ⟨-, -, ofUri⟩ := Uri.decompose_eq_ok_iff.mp has.decomposed
  rw [same, ofSplit_of_path_fragment, ← ofUri] at ofOther
  exact ⟨ofOther ▸ decomposed, has.pairs, has.username, has.password⟩

theorem HasSources.scheme_ne_nil {uri : Text} {sources : Sources} (has : HasSources uri sources) :
    ∀ scheme ∈ sources.components.scheme, scheme ≠ [] := by
  obtain ⟨-, -, ofUri⟩ := Uri.decompose_eq_ok_iff.mp has.decomposed
  intro scheme present
  rw [ofUri] at present
  exact ((Uri.firstMarks_split uri).scheme scheme present).1

/-- An accepted text whose pieces decode has a configuration under every policy. Each name has the
value that its strongest source gives it, no other name is there, and the names stand in the order
in which they are written first. The protocol is the scheme or the default one; neither the path nor
the fragment counts. -/
theorem configuration_precedence {uri : Text} {sources : Sources} (has : HasSources uri sources)
    (policy : ParameterPolicy) :
    ∃ found, configuration policy (.text uri) = .ok found ∧
      (∀ name value, found.get? name = some value ↔ sources.Gives policy name value) ∧
      found.parameters.names = (sources.writtenNames policy).eraseDups ∧
      found.parameters.names.Nodup ∧
      found.protocol = sources.components.scheme.getD "ssh".toList ∧ found.protocol ≠ [] ∧
      ∀ other path fragment, Uri.split other = { Uri.split uri with path, fragment } →
        (∃ components, Uri.decompose other = .ok components) →
        configuration policy (.text other) = .ok found := by
  have protocol : (sources.configuration policy).protocol =
      sources.components.scheme.getD "ssh".toList := orDefault_eq_getD has.scheme_ne_nil
  refine ⟨sources.configuration policy, has.configuration_eq policy,
    fun name value => Sources.get?_eq_some_iff_gives, ?_, ?_, protocol, ?_, ?_⟩
  · rw [Sources.names_configuration, Sources.map_fst_writes]
  · exact (sources.configuration policy).parameters.nodup
  · rw [protocol]
    cases present : sources.components.scheme with
    | none => decide
    | some scheme => exact has.scheme_ne_nil scheme present
  · intro other path fragment same accepted
    exact (has.of_path_fragment same accepted).configuration_eq policy

/-- A text whose port, host, credentials and query name the same parameters. -/
def collidingText : Text :=
  "//al:@host:0022/?port=&username=x&b=1&hostname=q&b=2&password=p".toList

def collidingSources : Sources where
  components := ⟨none, some "al:".toList, some "host".toList, some 22,
    some "port=&username=x&b=1&hostname=q&b=2&password=p".toList⟩
  pairs := [("port".toList, []), ("username".toList, "x".toList), ("b".toList, "1".toList),
    ("hostname".toList, "q".toList), ("b".toList, "2".toList), ("password".toList, "p".toList)]
  username := "al".toList
  password := []

theorem hasSources_colliding : HasSources collidingText collidingSources where
  decomposed := rfl
  pairs := by
    have rendered : collidingSources.components.query.getD [] =
        Query.render collidingSources.pairs := rfl
    rw [rendered, Query.segments_render, Query.entries_map_segment]
  username := rfl
  password := rfl

/-- An empty value in the query hides the port, a denied one does not hide the host, and an empty
password hides nothing. -/
theorem configuration_colliding_names :
    HasSources collidingText collidingSources ∧
      ∃ found, configuration (.ofNames [] ["hostname".toList]) (.text collidingText) = .ok found ∧
        found.parameters.names =
          ["port".toList, "hostname".toList, "username".toList, "b".toList, "password".toList] ∧
        found.get? portName = some [] ∧ found.get? hostName = some "host".toList ∧
        found.get? userName = some "al".toList ∧ found.get? "b".toList = some "2".toList ∧
        found.get? passwordName = some "p".toList := by
  obtain ⟨found, read, values, names, -⟩ :=
    configuration_precedence hasSources_colliding (.ofNames [] ["hostname".toList])
  have given : ∀ name value, (collidingSources.configuration
      (.ofNames [] ["hostname".toList])).get? name = some value → found.get? name = some value :=
    fun name value written => (values name value).mpr (Sources.gives_of_get? written)
  refine ⟨hasSources_colliding, found, read, names.trans (by decide), ?_, ?_, ?_, ?_, ?_⟩
  · exact given _ _ (by decide)
  · exact given _ _ (by decide)
  · exact given _ _ (by decide)
  · exact given _ _ (by decide)
  · exact given _ _ (by decide)

end ConnectionUri.Connection
