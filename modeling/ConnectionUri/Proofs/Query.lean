import ConnectionUri.Proofs.Percent.RoundTrip
import ConnectionUri.Query

/-!
# Rendered queries

`segments_joined` gives the segments of texts that were joined, and `exists_entries_iff` says that a
query decodes when each of its segments does. No ampersand and no equals sign occurs in an encoded
text, so a rendered query falls into the segments it was rendered from, and `parse_render` reads the
entries back.
-/

set_option autoImplicit false

/-!
## Segments
-/

namespace ConnectionUri.Query

@[simp] theorem segments_nil : segments [] = [] := by
  simp [segments]

theorem joined_cons_cons (first second : Text) (rest : List Text) :
    Text.joined ['&'] (first :: second :: rest) =
      first ++ '&' :: Text.joined ['&'] (second :: rest) := by
  simp [Text.joined, List.intercalate]

/-- A query is spelled with the characters of a class exactly when its segments are. -/
theorem spelled_joined_iff {allowed : Char → Bool} (permitted : allowed '&' = true)
    {list : List Text} : Uri.Spelled allowed (Text.joined ['&'] list) ↔
      ∀ segment ∈ list, Uri.Spelled allowed segment := by
  induction list with
  | nil => simp [Text.joined, Uri.Spelled.nil]
  | cons first rest ih =>
      cases rest with
      | nil => simp [Text.joined]
      | cons second rest =>
          rw [joined_cons_cons, List.forall_mem_cons, ← ih]
          constructor
          · exact Uri.Spelled.of_append_cons (by decide)
          · intro ⟨ofFirst, ofRest⟩
            exact ofFirst.append (.char permitted ofRest)

theorem spelled_of_mem_segments {allowed : Char → Bool} (permitted : allowed '&' = true)
    {query segment : Text} (spelled : Uri.Spelled allowed query)
    (member : segment ∈ segments query) : Uri.Spelled allowed segment := by
  have whole : Text.joined ['&'] (List.splitOn '&' query) = query := List.intercalate_splitOn '&'
  rw [← whole, spelled_joined_iff permitted] at spelled
  exact spelled segment (List.mem_filter.mp member).1

theorem not_mem_of_mem_splitOn {query segment : Text} (member : segment ∈ List.splitOn '&' query) :
    '&' ∉ segment := by
  induction query generalizing segment with
  | nil =>
      rw [List.splitOn_nil, List.mem_singleton] at member
      simp [member]
  | cons char rest ih =>
      rw [List.splitOn_cons_eq_if_modifyHead] at member
      cases found : List.splitOn '&' rest with
      | nil => exact absurd found (List.splitOn_ne_nil '&' rest)
      | cons first more =>
          rw [found] at ih member
          by_cases same : char = '&'
          · simp only [same, beq_self_eq_true, if_true, List.mem_cons] at member
            rcases member with rfl | member
            · exact List.not_mem_nil
            · exact ih (List.mem_cons.mpr member)
          · simp only [beq_iff_eq, same, if_false, List.modifyHead_cons, List.mem_cons] at member
            rcases member with rfl | member
            · simp [Ne.symm same, ih List.mem_cons_self]
            · exact ih (List.mem_cons_of_mem first member)

/-- Texts without an ampersand are the segments that they are joined to, save the empty ones. -/
theorem segments_joined {list : List Text} (plain : ∀ segment ∈ list, '&' ∉ segment) :
    segments (Text.joined ['&'] list) = list.filter fun segment => !segment.isEmpty := by
  cases list with
  | nil => exact segments_nil
  | cons first rest =>
      rw [segments, Text.joined, List.splitOn_intercalate '&' plain (List.cons_ne_nil first rest)]

end ConnectionUri.Query

/-!
## Entries
-/

namespace ConnectionUri.Query

theorem entry_eq_ok_iff {segment : Text} {pair : Text × Text} :
    entry segment = .ok pair ↔ Percent.decode (rawEntry segment).1 = .ok pair.1 ∧
      Percent.decode (rawEntry segment).2 = .ok pair.2 := by
  obtain ⟨name, value⟩ := pair
  unfold entry
  cases Percent.decode (rawEntry segment).2 with
  | error error => simp [bind, Except.bind]
  | ok decodedValue =>
      cases Percent.decode (rawEntry segment).1 with
      | error error => simp [bind, Except.bind]
      | ok decodedName => simp [bind, Except.bind, pure, Except.pure]

theorem decode_eq_error_of_entry {segment : Text} {error : Percent.DecodingError}
    (failed : entry segment = .error error) :
    Percent.decode (rawEntry segment).2 = .error error ∨
      Percent.decode (rawEntry segment).1 = .error error := by
  unfold entry at failed
  cases value : Percent.decode (rawEntry segment).2 with
  | error cause =>
      rw [value] at failed
      exact .inl (congrArg Except.error (Except.error.inj failed))
  | ok decodedValue =>
      cases name : Percent.decode (rawEntry segment).1 with
      | error cause =>
          rw [value, name] at failed
          exact .inr (congrArg Except.error (Except.error.inj failed))
      | ok decodedName =>
          rw [value, name] at failed
          cases failed

theorem entries_cons_eq_ok_iff {segment : Text} {rest : List Text} {pairs : List (Text × Text)} :
    entries (segment :: rest) = .ok pairs ↔ ∃ first more,
      entry segment = .ok first ∧ entries rest = .ok more ∧ pairs = first :: more := by
  rw [entries]
  cases entry segment with
  | error error => simp [bind, Except.bind]
  | ok first =>
      cases entries rest with
      | error error => simp [bind, Except.bind]
      | ok more => simp [bind, Except.bind, pure, Except.pure, eq_comm]

theorem exists_entries_iff {list : List Text} :
    (∃ pairs, entries list = .ok pairs) ↔ ∀ segment ∈ list, ∃ pair, entry segment = .ok pair := by
  induction list with
  | nil => simp [entries]
  | cons segment rest ih =>
      simp only [List.mem_cons, forall_eq_or_imp, ← ih, entries_cons_eq_ok_iff]
      constructor
      · intro ⟨_, first, more, ofFirst, ofRest, _⟩
        exact ⟨⟨first, ofFirst⟩, more, ofRest⟩
      · intro ⟨⟨first, ofFirst⟩, more, ofRest⟩
        exact ⟨first :: more, first, more, ofFirst, ofRest, rfl⟩

theorem exists_entry_eq_error {list : List Text} {error : Percent.DecodingError}
    (failed : entries list = .error error) : ∃ segment ∈ list, entry segment = .error error := by
  induction list with
  | nil => cases failed
  | cons segment rest ih =>
      rw [entries] at failed
      cases ofFirst : entry segment with
      | error cause =>
          rw [ofFirst] at failed
          cases failed
          exact ⟨segment, List.mem_cons_self, ofFirst⟩
      | ok first =>
          cases ofRest : entries rest with
          | error cause =>
              rw [ofFirst, ofRest] at failed
              cases failed
              obtain ⟨culprit, member, same⟩ := ih ofRest
              exact ⟨culprit, List.mem_cons_of_mem segment member, same⟩
          | ok more =>
              rw [ofFirst, ofRest] at failed
              cases failed

/-- Leaving out segments by their names leaves out the entries under these names. -/
theorem entries_filter {list : List Text} {pairs : List (Text × Text)} {keep : Text → Bool}
    (keepName : Text → Bool)
    (same : ∀ segment ∈ list, ∀ pair, entry segment = .ok pair → keep segment = keepName pair.1)
    (decoded : entries list = .ok pairs) :
    entries (list.filter keep) = .ok (pairs.filter fun pair => keepName pair.1) := by
  induction list generalizing pairs with
  | nil =>
      cases decoded
      rfl
  | cons segment rest ih =>
      obtain ⟨first, more, ofFirst, ofRest, rfl⟩ := entries_cons_eq_ok_iff.mp decoded
      have later := ih (fun other member => same other (List.mem_cons_of_mem segment member)) ofRest
      rw [List.filter_cons, List.filter_cons, same segment List.mem_cons_self first ofFirst]
      cases keepName first.1 with
      | true => exact entries_cons_eq_ok_iff.mpr ⟨first, _, ofFirst, later, rfl⟩
      | false => exact later

end ConnectionUri.Query

/-!
## Encoded segments
-/

namespace ConnectionUri.Query

open Percent Uri

private theorem ampersand_not_mem_segment (pair : Text × Text) : '&' ∉ segment pair := by
  have name : '&' ∉ encode pair.1 := (spelled_encode pair.1).not_mem (by decide)
  have value : '&' ∉ encode pair.2 := (spelled_encode pair.2).not_mem (by decide)
  simp [segment, name, value]

/-- An encoded segment is read as the entry that it encodes. -/
theorem entry_segment (pair : Text × Text) : entry (segment pair) = .ok pair := by
  have absent : '=' ∉ encode pair.1 := (spelled_encode pair.1).not_mem (by decide)
  have raw : rawEntry (segment pair) = (encode pair.1, encode pair.2) := by
    simp only [rawEntry, segment, Text.cut_append_cons absent]
  simp only [entry, raw, decode_encode]
  rfl

theorem entries_map_segment (list : List (Text × Text)) :
    entries (list.map segment) = .ok list := by
  induction list with
  | nil => rfl
  | cons first rest ih =>
      simp only [List.map_cons, entries, entry_segment, ih]
      rfl

end ConnectionUri.Query

/-!
## Rendering
-/

namespace ConnectionUri.Query

open Percent Uri

theorem segments_render (list : List (Text × Text)) :
    segments (render list) = list.map segment := by
  have plain : ∀ written ∈ list.map segment, '&' ∉ written := by
    intro written member
    obtain ⟨pair, _, rfl⟩ := List.mem_map.mp member
    exact ampersand_not_mem_segment pair
  rw [render, segments_joined plain, List.filter_eq_self]
  intro written member
  obtain ⟨pair, _, rfl⟩ := List.mem_map.mp member
  simp [segment]

/-- A rendered query sets the entries that it was rendered from, one after another. -/
theorem parse_render (list : List (Text × Text)) :
    parse (render list) = .ok (ParameterMap.ofList list) := by
  rw [parse, segments_render, entries_map_segment]
  rfl

private theorem spelled_encode_query (text : Text) : Spelled isQueryChar (encode text) := by
  apply (spelled_encode text).mono
  intro char safe
  simp [isQueryChar, isPathChar, isRegistryChar, isNameChar_of_isSafe safe]

private theorem spelled_segment (pair : Text × Text) : Spelled isQueryChar (segment pair) :=
  (spelled_encode_query pair.1).append (.char (by decide) (spelled_encode_query pair.2))

theorem spelled_render (list : List (Text × Text)) : Spelled isQueryChar (render list) := by
  refine (spelled_joined_iff (by decide)).mpr fun written member => ?_
  obtain ⟨pair, _, rfl⟩ := List.mem_map.mp member
  exact spelled_segment pair

end ConnectionUri.Query
