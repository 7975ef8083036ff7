import ConnectionUri.Proofs.ParameterMap
import ConnectionUri.Proofs.Query

/-!
# Queries put together

The segments of two queries joined by an ampersand are those of the one and then those of the other, so
the map of the whole is the map of the first part with the entries of the second written to it. From
this follow queries with empty segments, and queries that were written from entries one by one.
-/

set_option autoImplicit false

/-!
## Updated maps
-/

namespace ConnectionUri.ParameterMap

variable {α : Type}

/-- A map after another is written to it: a known name keeps its place and takes the new value, and the
new names follow in their order. -/
structure Updated (map changes result : ParameterMap α) : Prop where
  names : result.names = map.names ++ changes.names.filter fun name => !map.names.contains name
  values : ∀ name, result.get? name = (changes.get? name).or (map.get? name)

theorem updated_insertMany (map changes : ParameterMap α) :
    map.Updated changes (map.insertMany changes.entries) where
  names := by
    have fresh : (changes.names.filter fun name => !map.names.contains name).Nodup :=
      List.Nodup.sublist List.filter_sublist changes.nodup
    have known : map.names.eraseDups = map.names := eraseDups_of_nodup map.nodup
    rw [names_insertMany, List.eraseDups_append, known]
    exact congrArg (map.names ++ ·) (eraseDups_of_nodup fresh)
  values := by
    intro name
    rw [get?_insertMany, ← get?_ofList, ofList_entries]

/-- One map only is another after an update. -/
theorem updated_iff {map changes result : ParameterMap α} :
    map.Updated changes result ↔ result = map.insertMany changes.entries := by
  have written := updated_insertMany map changes
  constructor
  · intro updated
    apply ext_get?
    · rw [updated.names, written.names]
    · intro name
      rw [updated.values, written.values]
  · intro same
    exact same ▸ written

end ConnectionUri.ParameterMap

/-!
## Joined queries
-/

namespace ConnectionUri.Query

theorem segments_append_cons (left right : Text) :
    segments (left ++ '&' :: right) = segments left ++ segments right := by
  rw [segments, List.splitOn_append_cons_self, List.filter_append]
  rfl

theorem entries_append (left right : List Text) :
    entries (left ++ right) =
      (do
        let first ← entries left
        let second ← entries right
        pure (first ++ second)) := by
  induction left with
  | nil =>
      rw [List.nil_append]
      cases entries right <;> rfl
  | cons segment left ih =>
      simp only [List.cons_append, entries, ih]
      cases entry segment with
      | error error => rfl
      | ok pair =>
          cases entries left with
          | error error => rfl
          | ok first => cases entries right <;> rfl

/-- Reading goes from left to right: the first part that fails decides. -/
theorem parse_append_cons (left right : Text) :
    parse (left ++ '&' :: right) =
      (do
        let first ← parse left
        let second ← parse right
        pure (first.insertMany second.entries)) := by
  simp only [parse, segments_append_cons, entries_append]
  cases entries (segments left) with
  | error error => rfl
  | ok first =>
      cases entries (segments right) with
      | error error => rfl
      | ok second =>
          have whole : ParameterMap.ofList (first ++ second) =
              (ParameterMap.ofList first).insertMany second :=
            ParameterMap.insertMany_append _ first second
          have rewritten := ParameterMap.insertMany_ofList (ParameterMap.ofList first) second
          exact congrArg Except.ok (whole.trans rewritten.symm)

theorem parse_append_cons_eq_ok_iff {left right : Text} {map : ParameterMap Text} :
    parse (left ++ '&' :: right) = .ok map ↔ ∃ first second,
      parse left = .ok first ∧ parse right = .ok second ∧ first.Updated second map := by
  simp only [parse_append_cons, ParameterMap.updated_iff]
  cases parse left with
  | error error => simp [bind, Except.bind]
  | ok first =>
      cases parse right with
      | error error => simp [bind, Except.bind]
      | ok second => simp [bind, Except.bind, pure, Except.pure, eq_comm]

theorem parse_append_cons_eq_error_iff {left right : Text} {error : Percent.DecodingError} :
    parse (left ++ '&' :: right) = .error error ↔
      parse left = .error error ∨ (∃ first, parse left = .ok first) ∧ parse right = .error error := by
  rw [parse_append_cons]
  cases parse left with
  | error cause => simp [bind, Except.bind]
  | ok first =>
      cases parse right with
      | error cause => simp [bind, Except.bind]
      | ok second => simp [bind, Except.bind, pure, Except.pure]

/-- The segments of texts that were joined are the segments of each of them. -/
theorem segments_joined_eq_flatMap (list : List Text) :
    segments (Text.joined ['&'] list) = list.flatMap segments := by
  induction list with
  | nil => exact segments_nil
  | cons first rest ih =>
      cases rest with
      | nil => simp [Text.joined]
      | cons second rest =>
          rw [joined_cons_cons, segments_append_cons, ih]
          rfl

theorem parse_joined_without_empty (before after : List Text) :
    parse (Text.joined ['&'] (before ++ [] :: after)) =
      parse (Text.joined ['&'] (before ++ after)) := by
  simp only [parse, segments_joined_eq_flatMap, List.flatMap_append, List.flatMap_cons, segments_nil,
    List.nil_append]

end ConnectionUri.Query

/-!
## Written entries
-/

namespace ConnectionUri.Query

open Percent

/-- The segments that write entries one after another. Empty segments may stand anywhere, and the
equals sign before an empty value may be left out where there is a name. -/
inductive Writes : List (Text × Text) → List Text → Prop where
  | nil : Writes [] []
  | empty {pairs : List (Text × Text)} {list : List Text} :
      Writes pairs list → Writes pairs ([] :: list)
  | entry {name value : Text} {pairs : List (Text × Text)} {list : List Text} :
      Writes pairs list →
      Writes ((name, value) :: pairs) ((encode name ++ '=' :: encode value) :: list)
  | flag {name : Text} {pairs : List (Text × Text)} {list : List Text} :
      name ≠ [] → Writes pairs list → Writes ((name, []) :: pairs) (encode name :: list)

theorem segments_of_plain {segment : Text} (filled : segment ≠ []) (plain : '&' ∉ segment) :
    segments segment = [segment] := by
  rw [segments, List.splitOn_eq_singleton plain]
  simp [filled]

theorem encode_ne_nil {text : Text} (filled : text ≠ []) : encode text ≠ [] := by
  intro empty
  have decoded := decode_encode text
  rw [empty] at decoded
  exact filled (Except.ok.inj decoded).symm

/-- A name without a value is read as the name of an empty value. -/
theorem entry_encode (name : Text) : entry (encode name) = .ok (name, []) := by
  have absent : '=' ∉ encode name := (spelled_encode name).not_mem (by decide)
  have raw : rawEntry (encode name) = (encode name, []) := by
    simp only [rawEntry, Text.cut_of_not_mem absent]
  exact entry_eq_ok_iff.mpr ⟨by rw [raw]; exact decode_encode name, by rw [raw]; rfl⟩

theorem Writes.entries {pairs : List (Text × Text)} {list : List Text} (writes : Writes pairs list) :
    entries (list.flatMap segments) = .ok pairs := by
  induction writes with
  | nil => rfl
  | empty _ ih => rwa [List.flatMap_cons, segments_nil]
  | @entry name value pairs list _ ih =>
      have plain : '&' ∉ encode name ++ '=' :: encode value := by
        have ofName : '&' ∉ encode name := (spelled_encode name).not_mem (by decide)
        have ofValue : '&' ∉ encode value := (spelled_encode value).not_mem (by decide)
        simp [ofName, ofValue]
      rw [List.flatMap_cons, segments_of_plain (by simp) plain]
      exact entries_cons_eq_ok_iff.mpr ⟨_, _, entry_segment (name, value), ih, rfl⟩
  | @flag name pairs list filled _ ih =>
      have plain : '&' ∉ encode name := (spelled_encode name).not_mem (by decide)
      rw [List.flatMap_cons, segments_of_plain (encode_ne_nil filled) plain]
      exact entries_cons_eq_ok_iff.mpr ⟨_, _, entry_encode name, ih, rfl⟩

/-- Written entries are inserted one after another. -/
theorem Writes.parse {pairs : List (Text × Text)} {list : List Text} (writes : Writes pairs list) :
    parse (Text.joined ['&'] list) = .ok (.ofList pairs) := by
  rw [Query.parse, segments_joined_eq_flatMap, writes.entries]
  rfl

/-- Queries are read segment by segment. Two of them joined are read as the first with the second
written to it, and a failure is that of the first part that fails. Empty segments count for nothing, a
query that writes entries is read as these entries inserted one after another, and what was read is read
again from its own entries. -/
theorem parse_concatenates :
    (∀ left right map, parse (left ++ '&' :: right) = .ok map ↔ ∃ first second,
      parse left = .ok first ∧ parse right = .ok second ∧ first.Updated second map) ∧
    (∀ left right error, parse (left ++ '&' :: right) = .error error ↔
      parse left = .error error ∨ (∃ first, parse left = .ok first) ∧ parse right = .error error) ∧
    (∀ before after, parse (Text.joined ['&'] (before ++ [] :: after)) =
      parse (Text.joined ['&'] (before ++ after))) ∧
    (∀ pairs list, Writes pairs list →
      parse (Text.joined ['&'] list) = .ok (pairs.foldl (fun map pair => map.insert pair.1 pair.2) ∅)) ∧
    ∀ map : ParameterMap Text, parse (render map.entries) = .ok map := by
  refine ⟨fun _ _ _ => parse_append_cons_eq_ok_iff, fun _ _ _ => parse_append_cons_eq_error_iff,
    parse_joined_without_empty, ?_, ?_⟩
  · intro pairs list writes
    exact writes.parse
  · intro map
    rw [parse_render, ParameterMap.ofList_entries]

private def repeated : List (Text × Text) :=
  [("a".toList, "1".toList), ("é=".toList, "&".toList), ("a".toList, []), ([], [])]

private theorem writes_repeated :
    Writes repeated [[], encode "a".toList ++ '=' :: encode "1".toList, [],
      encode "é=".toList ++ '=' :: encode "&".toList, encode "a".toList, encode [] ++ '=' :: encode [],
      []] :=
  .empty (.entry (.empty (.entry (.flag (by decide) (.entry (.empty .nil))))))

/-- A repeated name, a name without a value, marks in names and values, and empty segments. -/
theorem parse_repeated_name :
    (∃ list, Writes repeated list ∧
      Text.joined ['&'] list = "&a=1&&%C3%A9%3D=%26&a&=&".toList) ∧
    ∃ map, parse "&a=1&&%C3%A9%3D=%26&a&=&".toList = .ok map ∧
      map.entries = [("a".toList, []), ("é=".toList, "&".toList), ([], [])] := by
  have joined : Text.joined ['&'] [[], encode "a".toList ++ '=' :: encode "1".toList, [],
      encode "é=".toList ++ '=' :: encode "&".toList, encode "a".toList, encode [] ++ '=' :: encode [],
      []] = "&a=1&&%C3%A9%3D=%26&a&=&".toList := by decide
  obtain ⟨-, -, -, written, -⟩ := parse_concatenates
  refine ⟨⟨_, writes_repeated, joined⟩, _, joined ▸ written _ _ writes_repeated, ?_⟩
  decide

end ConnectionUri.Query
