import ConnectionUri.Proofs.Connection.Precedence

/-!
# What a policy decides

A policy chooses among the decoded entries of a query. `configuration_policies` says that it neither
makes a text fail nor touches what the authority and the user-info set, that a name depends on no
other part of the policy than whether that name is permitted, and that segments for a name that is
not permitted might as well not be there.
-/

set_option autoImplicit false

/-!
## Queries without a name
-/

namespace ConnectionUri.Query

open Uri

/-- Whether a segment sets another name, or none because its own does not decode. -/
def avoids (name segment : Text) : Bool :=
  (Percent.decode (rawEntry segment).1).toOption != some name

/-- A query without the segments whose decoded name is the given one. -/
def without (name query : Text) : Text :=
  Text.joined ['&'] ((List.splitOn '&' query).filter (avoids name))

theorem segments_without (name query : Text) :
    segments (without name query) = (segments query).filter (avoids name) := by
  have plain : ∀ segment ∈ (List.splitOn '&' query).filter (avoids name), '&' ∉ segment :=
    fun segment member => not_mem_of_mem_splitOn ((List.mem_filter.mp member).1)
  rw [without, segments_joined plain, segments, List.filter_filter, List.filter_filter]
  simp only [Bool.and_comm]

theorem entries_without {query : Text} {pairs : List (Text × Text)} (name : Text)
    (decoded : entries (segments query) = .ok pairs) :
    entries (segments (without name query)) =
      .ok (pairs.filter fun pair => pair.1 != name) := by
  rw [segments_without]
  refine entries_filter (fun other => other != name) ?_ decoded
  intro segment _ pair read
  obtain ⟨ofName, -⟩ := entry_eq_ok_iff.mp read
  rw [avoids, ofName]
  rfl

/-- Segments can be left out of a legal query, also of one that ends in a line feed. -/
theorem spelled_joined_filter {list : List Text} (keep : Text → Bool)
    (spelled : Spelled isQueryChar (Text.dropFinalNewline (Text.joined ['&'] list))) :
    Spelled isQueryChar (Text.dropFinalNewline (Text.joined ['&'] (list.filter keep))) := by
  induction list with
  | nil => exact spelled
  | cons first rest ih =>
      cases rest with
      | nil =>
          cases kept : keep first with
          | true => simpa [kept] using spelled
          | false => simpa [kept, Text.joined, Text.dropFinalNewline] using Spelled.nil
      | cons second rest =>
          -- Only the last segment can end in a line feed, so the first is spelled in full.
          rw [joined_cons_cons, Text.dropFinalNewline_append_cons (by decide)] at spelled
          obtain ⟨ofFirst, ofRest⟩ := spelled.of_append_cons (by decide)
          have later := ih ofRest
          rw [List.filter_cons]
          cases keep first with
          | false => exact later
          | true =>
              cases remaining : (second :: rest).filter keep with
              | nil =>
                  have whole := ofFirst.dropFinalNewline_eq (by decide)
                  simpa [Text.joined, whole] using ofFirst
              | cons next others =>
                  rw [remaining] at later
                  simp only [if_true, joined_cons_cons,
                    Text.dropFinalNewline_append_cons (show '&' ≠ '\n' by decide)]
                  exact ofFirst.append (.char (by decide) later)

theorem spelled_without {query : Text} (name : Text)
    (spelled : Spelled isQueryChar (Text.dropFinalNewline query)) :
    Spelled isQueryChar (Text.dropFinalNewline (without name query)) := by
  apply spelled_joined_filter
  rwa [Text.joined, List.intercalate_splitOn]

theorem sign_not_mem_of_spelled {query : Text}
    (spelled : Spelled isQueryChar (Text.dropFinalNewline query)) : '#' ∉ query := by
  intro member
  rcases Text.mem_dropFinalNewline member with member | ⟨newline, -⟩
  · exact spelled.not_mem (by decide) member
  · cases newline

end ConnectionUri.Query

/-!
## Texts without a parameter
-/

namespace ConnectionUri.Connection

open Uri

/-- A text without the segments of its query that set a name. -/
def withoutParameter (name uri : Text) : Text :=
  { split uri with query := (split uri).query.map (Query.without name) }.join

theorem split_withoutParameter {uri : Text} (name : Text) (legal : (split uri).trimmed.Legal) :
    split (withoutParameter name uri) =
      { split uri with query := (split uri).query.map (Query.without name) } := by
  refine (firstMarks_split uri).split_join_query fun written present => ?_
  obtain ⟨query, original, rfl⟩ := Option.map_eq_some_iff.mp present
  have trimmed : (split uri).trimmed.query = some (Text.dropFinalNewline query) := by
    simp [Split.trimmed, original]
  exact Query.sign_not_mem_of_spelled (Query.spelled_without name (legal.query _ trimmed))

theorem legal_withoutParameter {uri : Text} (name : Text) (legal : (split uri).trimmed.Legal) :
    (split (withoutParameter name uri)).trimmed.Legal := by
  rw [split_withoutParameter name legal]
  refine ⟨legal.scheme, legal.authority, legal.path, fun written present => ?_, legal.fragment⟩
  cases original : (split uri).query with
  | none => simp [Split.trimmed, original] at present
  | some query =>
      have trimmed : (split uri).trimmed.query = some (Text.dropFinalNewline query) := by
        simp [Split.trimmed, original]
      have whole := Query.spelled_without name (legal.query _ trimmed)
      simp only [Split.trimmed, original, Option.map_some, Option.mem_some_iff] at present
      exact present ▸ whole

namespace Sources

/-- Sources without the entries of the query that set a name. -/
def without (name : Text) (sources : Sources) : Sources where
  components :=
    { sources.components with query := sources.components.query.map (Query.without name) }
  pairs := sources.pairs.filter fun pair => pair.1 != name
  username := sources.username
  password := sources.password

theorem configuration_without {policy : ParameterPolicy} {name : Text}
    (refused : policy.permits name = false) (sources : Sources) :
    (sources.without name).configuration policy = sources.configuration policy := by
  have same : (sources.without name).pairs.filter (fun pair => policy.permits pair.1) =
      sources.pairs.filter fun pair => policy.permits pair.1 := by
    rw [without, List.filter_filter]
    apply List.filter_congr
    intro pair _
    by_cases named : pair.1 = name
    · simp [named, refused]
    · simp [named]
  simp only [configuration, writes, same]
  rfl

end Sources

theorem HasSources.withoutParameter {uri : Text} {sources : Sources} (has : HasSources uri sources)
    (name : Text) : HasSources (withoutParameter name uri) (sources.without name) where
  decomposed := by
    obtain ⟨legal, short, ofUri⟩ := decompose_eq_ok_iff.mp has.decomposed
    refine decompose_eq_ok_iff.mpr ⟨legal_withoutParameter name legal, ?_, ?_⟩
    · rw [split_withoutParameter name legal]
      exact short
    · rw [split_withoutParameter name legal, Sources.without, ofUri]
      rfl
  pairs := by
    have decoded := has.pairs
    cases present : sources.components.query with
    | none =>
        rw [present, Option.getD_none, Query.segments_nil] at decoded
        have empty : sources.pairs = [] := (Except.ok.inj decoded).symm
        simp only [Sources.without, present, empty]
        rfl
    | some query =>
        rw [present] at decoded
        simpa only [Sources.without, present, Option.map_some, Option.getD_some] using
          Query.entries_without name decoded
  username := has.username
  password := has.password

end ConnectionUri.Connection

/-!
## Two policies
-/

namespace ConnectionUri.Connection

open Uri

/-- Every failure comes before a policy is asked. -/
theorem configuration_error_of_policy {left right : ParameterPolicy} {uri : Value}
    {error : ConnectionError} (failed : configuration left uri = .error error) :
    configuration right uri = .error error := by
  by_cases isText : ∃ text, uri = .text text
  · obtain ⟨text, rfl⟩ := isText
    rw [configuration_text] at failed ⊢
    cases decomposed : decompose text with
    | error refusal =>
        rw [decomposed] at failed
        exact failed
    | ok components =>
        simp only [decomposed] at failed ⊢
        cases ofQuery : decodedQuery components.query with
        | error culprit =>
            rw [ofQuery] at failed
            exact failed
        | ok query =>
            simp only [ofQuery] at failed ⊢
            cases ofUserInfo : decodedUserInfo components.userInfo with
            | error culprit =>
                rw [ofUserInfo] at failed
                exact failed
            | ok userInfo =>
                rw [ofUserInfo] at failed
                cases failed
  · have noText : ∀ text, uri ≠ .text text := fun text same => isText ⟨text, same⟩
    rw [configuration_of_not_text left noText] at failed
    rw [configuration_of_not_text right noText, failed]

theorem configuration_error_iff_of_policy (left right : ParameterPolicy) {uri : Value}
    {error : ConnectionError} :
    configuration left uri = .error error ↔ configuration right uri = .error error :=
  ⟨configuration_error_of_policy, configuration_error_of_policy⟩

theorem exists_text_of_configuration {policy : ParameterPolicy} {uri : Value}
    {found : Configuration Text} (read : configuration policy uri = .ok found) :
    ∃ text, uri = .text text := by
  apply Classical.byContradiction
  intro noText
  rw [configuration_of_not_text policy fun text same => noText ⟨text, same⟩] at read
  cases read

namespace Sources

theorem get?_configuration_congr {left right : ParameterPolicy} {name : Text}
    (agree : left.permits name = right.permits name) (sources : Sources) :
    (sources.configuration left).get? name = (sources.configuration right).get? name := by
  rw [get?_configuration, get?_configuration, agree]

theorem not_hasParameter_of_refused {policy : ParameterPolicy} {name : Text}
    (refused : policy.permits name = false) (sources : Sources) :
    ¬ sources.HasParameter policy name := by
  intro ⟨permitted, _⟩
  rw [refused] at permitted
  cases permitted

end Sources

/-- What a policy leaves alone in the configuration of a text: it is the configuration without the
segments of any name that is not permitted, the authority keeps its names unless the query may set
them, and the credentials keep theirs. -/
structure LeavesAlone (policy : ParameterPolicy) (uri : Text) (sources : Sources)
    (found : Configuration Text) : Prop where
  segments : ∀ name, policy.permits name = false →
    HasSources (withoutParameter name uri) (sources.without name) ∧
      configuration policy (.text (withoutParameter name uri)) = .ok found
  host : policy.permits hostName = false →
    found.get? hostName = some (orDefault defaultHost sources.components.host)
  port : policy.permits portName = false → found.get? portName = positivePort sources.components
  username : sources.username ≠ [] → found.get? userName = some sources.username
  password : sources.password ≠ [] → found.get? passwordName = some sources.password

theorem HasSources.leavesAlone {uri : Text} {sources : Sources} (has : HasSources uri sources)
    (policy : ParameterPolicy) :
    LeavesAlone policy uri sources (sources.configuration policy) where
  segments := by
    intro name refused
    have remaining := has.withoutParameter name
    refine ⟨remaining, ?_⟩
    rw [remaining.configuration_eq policy, Sources.configuration_without refused]
  host := by
    intro refused
    exact Sources.get?_hostName (Sources.not_hasParameter_of_refused refused sources)
  port := by
    intro refused
    exact Sources.get?_portName (Sources.not_hasParameter_of_refused refused sources)
  username := fun filled => (Sources.Gives.username filled).get?
  password := fun filled => (Sources.Gives.password filled).get?

/-- Under any two policies a value fails with the same error or not at all. If it does not, the
protocol is the same, and so is the value or the absence of each name that both permit or neither
does. A policy never reaches beyond the query, and there not beyond the segments of the names that
it does not permit. -/
theorem configuration_policies (left right : ParameterPolicy) (uri : Value) :
    (∀ error, configuration left uri = .error error ↔ configuration right uri = .error error) ∧
    (∀ found other, configuration left uri = .ok found → configuration right uri = .ok other →
      found.protocol = other.protocol ∧
        ∀ name, left.permits name = right.permits name → found.get? name = other.get? name) ∧
    ∀ found, configuration left uri = .ok found →
      ∃ text sources, uri = .text text ∧ HasSources text sources ∧
        LeavesAlone left text sources found := by
  refine ⟨fun error => configuration_error_iff_of_policy left right, ?_, ?_⟩
  · intro found other readLeft readRight
    obtain ⟨text, rfl⟩ := exists_text_of_configuration readLeft
    obtain ⟨sources, has, rfl⟩ := configuration_eq_ok_iff.mp readLeft
    obtain ⟨same, hasSame, rfl⟩ := configuration_eq_ok_iff.mp readRight
    obtain rfl := has.unique hasSame
    exact ⟨rfl, fun name agree => Sources.get?_configuration_congr agree sources⟩
  · intro found read
    obtain ⟨text, rfl⟩ := exists_text_of_configuration read
    obtain ⟨sources, has, rfl⟩ := configuration_eq_ok_iff.mp read
    exact ⟨text, sources, rfl, has, has.leavesAlone left⟩

/-- A policy that denies the host and one that allows a single other name. -/
theorem configuration_policies_colliding_names :
    ∃ found other, configuration (.ofNames [] [hostName]) (.text collidingText) = .ok found ∧
      configuration (.ofNames ["b".toList] []) (.text collidingText) = .ok other ∧
      found.protocol = other.protocol ∧ found.get? "b".toList = other.get? "b".toList ∧
      configuration (.ofNames [] [hostName]) (.text (withoutParameter hostName collidingText)) =
        .ok found ∧
      found.get? hostName = some "host".toList := by
  have readLeft := hasSources_colliding.configuration_eq (.ofNames [] [hostName])
  have readRight := hasSources_colliding.configuration_eq (.ofNames ["b".toList] [])
  obtain ⟨-, agree, left⟩ :=
    configuration_policies (.ofNames [] [hostName]) (.ofNames ["b".toList] []) (.text collidingText)
  obtain ⟨protocol, values⟩ := agree _ _ readLeft readRight
  obtain ⟨text, sources, same, has, alone⟩ := left _ readLeft
  obtain rfl := Value.text.inj same
  obtain rfl := has.unique hasSources_colliding
  exact ⟨_, _, readLeft, readRight, protocol, values _ (by decide),
    (alone.segments hostName (by decide)).2, alone.host (by decide)⟩

end ConnectionUri.Connection
