import ConnectionUri.Proofs.Agreement
import ConnectionUri.Proofs.Connection.Sources

/-!
# Reordered queries

Segments that set different names can change places: every name keeps its last value, so the
configurations agree. Their names may stand in another order, and then their hash keys differ:
`hashKey_follows_order`.
-/

set_option autoImplicit false

/-!
## Segments in another order
-/

namespace ConnectionUri.Query

/-- Two segments do not set the same name. -/
def SetApart (first second : Text) : Prop :=
  ∀ pair other, entry first = .ok pair → entry second = .ok other → pair.1 ≠ other.1

/-- The same segments in another order, in which those that set the same name keep theirs. -/
inductive Reordered : List Text → List Text → Prop where
  | nil : Reordered [] []
  | cons {left right : List Text} (segment : Text) :
      Reordered left right → Reordered (segment :: left) (segment :: right)
  | swap {first second : Text} (rest : List Text) :
      SetApart first second → Reordered (first :: second :: rest) (second :: first :: rest)
  | trans {left middle right : List Text} :
      Reordered left middle → Reordered middle right → Reordered left right

/-- Reordered segments decode together, and each name has the same last value. -/
theorem Reordered.entries {left right : List Text} (reordered : Reordered left right)
    {pairs : List (Text × Text)} (decoded : entries left = .ok pairs) :
    ∃ others, Query.entries right = .ok others ∧
      ∀ name, lastValue? name pairs = lastValue? name others := by
  induction reordered generalizing pairs with
  | nil => exact ⟨pairs, decoded, fun _ => rfl⟩
  | cons segment _ ih =>
      obtain ⟨⟨key, value⟩, more, ofFirst, ofRest, rfl⟩ := entries_cons_eq_ok_iff.mp decoded
      obtain ⟨others, decodedToo, values⟩ := ih ofRest
      refine ⟨_, entries_cons_eq_ok_iff.mpr ⟨_, others, ofFirst, decodedToo, rfl⟩, ?_⟩
      intro name
      simp only [lastValue?_cons, values]
  | swap rest apart =>
      obtain ⟨⟨key, value⟩, more, ofFirst, ofMore, rfl⟩ := entries_cons_eq_ok_iff.mp decoded
      obtain ⟨⟨other, old⟩, last, ofSecond, ofRest, rfl⟩ := entries_cons_eq_ok_iff.mp ofMore
      have differ : key ≠ other := apart _ _ ofFirst ofSecond
      refine ⟨_, entries_cons_eq_ok_iff.mpr ⟨_, _, ofSecond,
        entries_cons_eq_ok_iff.mpr ⟨_, last, ofFirst, ofRest, rfl⟩, rfl⟩, ?_⟩
      intro name
      simp only [lastValue?_cons, Option.or_assoc]
      by_cases same : name = key
      · simp [same, differ]
      · simp [same]
  | trans _ _ leftIH rightIH =>
      obtain ⟨middle, ofMiddle, toMiddle⟩ := leftIH decoded
      obtain ⟨others, ofRight, fromMiddle⟩ := rightIH ofMiddle
      exact ⟨others, ofRight, fun name => (toMiddle name).trans (fromMiddle name)⟩

end ConnectionUri.Query

/-!
## Configurations of reordered queries
-/

namespace ConnectionUri.Connection

/-- Two texts decompose alike but for the order of the segments of their queries. -/
def SameButOrder (left right : Text) : Prop :=
  ∃ components query, Uri.decompose left = .ok components ∧
    Uri.decompose right = .ok { components with query } ∧
    Query.Reordered (Query.segments (components.query.getD [])) (Query.segments (query.getD []))

theorem HasSources.reordered {left right : Text} {sources : Sources} (has : HasSources left sources)
    (same : SameButOrder left right) :
    ∃ other, HasSources right other ∧
      ∀ policy, (sources.configuration policy).agrees (other.configuration policy) = true := by
  obtain ⟨components, query, ofLeft, ofRight, reordered⟩ := same
  have decomposed : sources.components = components :=
    Except.ok.inj (has.decomposed.symm.trans ofLeft)
  subst decomposed
  obtain ⟨others, decoded, values⟩ := reordered.entries has.pairs
  let other : Sources :=
    ⟨{ sources.components with query }, others, sources.username, sources.password⟩
  refine ⟨other, ⟨ofRight, decoded, has.username, has.password⟩, ?_⟩
  intro policy
  simp only [Configuration.agrees, Bool.and_eq_true, beq_iff_eq, ParameterMap.agrees_iff]
  refine ⟨rfl, fun name => ?_⟩
  have ofSources := sources.get?_configuration policy name
  have ofOther := other.get?_configuration policy name
  rw [values] at ofSources
  exact ofSources.trans ofOther.symm

/-- Configurations that agree have the same hash key exactly if their names stand in one order, and
so do outcomes. Two texts that differ in the order of their segments alone have configurations that
agree, and nothing keeps their names in one order. -/
theorem hashKey_follows_order {α : Type} [DecidableEq α] :
    (∀ left right : Configuration α, left.hashKey = right.hashKey ↔
      left.agrees right = true ∧ left.parameters.names = right.parameters.names) ∧
    (∀ left right : Outcome α, left.hashKey = right.hashKey ↔
      left.agrees right = true ∧ left.names = right.names) ∧
    ∀ policy left right found, SameButOrder left right →
      configuration policy (.text left) = .ok found →
      ∃ other, configuration policy (.text right) = .ok other ∧ found.agrees other = true ∧
        (found.hashKey = other.hashKey ↔ found.parameters.names = other.parameters.names) := by
  refine ⟨fun _ _ => Configuration.hashKey_eq_iff, fun _ _ => Outcome.hashKey_eq_iff, ?_⟩
  intro policy left right found same read
  obtain ⟨sources, has, rfl⟩ := configuration_eq_ok_iff.mp read
  obtain ⟨other, hasOther, agree⟩ := has.reordered same
  refine ⟨_, hasOther.configuration_eq policy, agree policy, ?_⟩
  simp [Configuration.hashKey_eq_iff, agree policy]

/-- Sources of a text that has a host and a rendered query alone. -/
def querySources (pairs : List (Text × Text)) : Sources where
  components := ⟨some "ssh".toList, none, some "h".toList, none, some (Query.render pairs)⟩
  pairs := pairs
  username := []
  password := []

theorem hasSources_querySources {uri : Text} {pairs : List (Text × Text)}
    (decomposed : Uri.decompose uri = .ok (querySources pairs).components) :
    HasSources uri (querySources pairs) where
  decomposed := decomposed
  pairs := by
    rw [querySources, Option.getD_some, Query.segments_render, Query.entries_map_segment]
  username := rfl
  password := rfl

theorem setApart_segment {first second : Text × Text} (differ : first.1 ≠ second.1) :
    Query.SetApart (Query.segment first) (Query.segment second) := by
  intro pair other ofFirst ofSecond
  rw [Query.entry_segment] at ofFirst ofSecond
  cases ofFirst
  cases ofSecond
  exact differ

/-- Two segments change places: the configurations and the outcomes agree, and their keys differ. -/
theorem hashKey_of_swapped_segments :
    ∃ found other, configuration .unrestricted (.text "ssh://h/?a=1&b=2".toList) = .ok found ∧
      configuration .unrestricted (.text "ssh://h/?b=2&a=1".toList) = .ok other ∧
      found.agrees other = true ∧ found.hashKey ≠ other.hashKey ∧
      (Outcome.success found).agrees (.success other) = true ∧
      (Outcome.success found).hashKey ≠ (Outcome.success other).hashKey := by
  let first : Text × Text := ("a".toList, "1".toList)
  let second : Text × Text := ("b".toList, "2".toList)
  have hasLeft : HasSources "ssh://h/?a=1&b=2".toList (querySources [first, second]) :=
    hasSources_querySources rfl
  have hasRight : HasSources "ssh://h/?b=2&a=1".toList (querySources [second, first]) :=
    hasSources_querySources rfl
  have swapped : SameButOrder "ssh://h/?a=1&b=2".toList "ssh://h/?b=2&a=1".toList := by
    refine ⟨_, some (Query.render [second, first]), hasLeft.decomposed, hasRight.decomposed, ?_⟩
    rw [querySources, Option.getD_some, Option.getD_some, Query.segments_render,
      Query.segments_render]
    exact .swap [] (setApart_segment (by decide))
  obtain ⟨-, outcomes, texts⟩ := @hashKey_follows_order Text _
  obtain ⟨other, read, agree, keys⟩ :=
    texts .unrestricted _ _ _ swapped (hasLeft.configuration_eq .unrestricted)
  obtain rfl := Except.ok.inj ((hasRight.configuration_eq .unrestricted).symm.trans read)
  have order : ((querySources [first, second]).configuration .unrestricted).parameters.names ≠
      ((querySources [second, first]).configuration .unrestricted).parameters.names := by decide
  refine ⟨_, _, hasLeft.configuration_eq .unrestricted, read, agree, mt keys.mp order, ?_, ?_⟩
  · simpa [Outcome.agrees, Outcome.success, Outcome.sameConfiguration] using agree
  · intro same
    exact order (Option.some.inj ((outcomes _ _).mp same).2)

end ConnectionUri.Connection
