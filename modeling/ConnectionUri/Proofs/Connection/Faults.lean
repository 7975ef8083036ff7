import ConnectionUri.Proofs.Connection.Errors
import ConnectionUri.Proofs.Connection.Sources
import ConnectionUri.Proofs.Percent.Runs

/-!
# Faults

A text that does not decompose is the client's fault; one that decomposes and whose pieces stand for
no UTF-8 is an internal fault; any other has a configuration. The grammar lets whole escapes through
only, and no cut at a mark goes through an escape, so `parse_attributes` can say that the decoder
never meets a malformed one.
-/

set_option autoImplicit false

/-!
## Whole escapes
-/

namespace ConnectionUri.Uri

theorem Spelled.escapes {allowed : Char → Bool} {text : Text} (spelled : Spelled allowed text)
    (plain : allowed '%' = false) : Spelled (· != '%') text := by
  apply spelled.mono
  intro char permitted
  rw [bne_iff_ne]
  rintro rfl
  rw [plain] at permitted
  cases permitted

theorem Spelled.ofCut {allowed : Char → Bool} {text : Text} (spelled : Spelled allowed text)
    {mark : Char} (single : (mark == '%' || Text.isHexDigit mark) = false) :
    Spelled allowed (Text.cut mark text).1 ∧
      ∀ after ∈ (Text.cut mark text).2, Spelled allowed after := by
  cases found : Text.cut mark text with
  | mk before remainder =>
      cases remainder with
      | none =>
          obtain ⟨rfl, -⟩ := Text.cut_eq_none found
          exact ⟨spelled, by simp⟩
      | some after =>
          rw [Text.cut_eq_some found] at spelled
          obtain ⟨ofBefore, ofAfter⟩ := spelled.of_append_cons single
          exact ⟨ofBefore, by rintro _ ⟨⟩; exact ofAfter⟩

theorem decompose_query_escapes {uri : Text} {components : Components}
    (accepted : decompose uri = .ok components) :
    Spelled (· != '%') (components.query.getD []) := by
  obtain ⟨legal, -, rfl⟩ := decompose_eq_ok_iff.mp accepted
  have same : (Components.ofSplit (split uri)).query = (split uri).query := rfl
  rw [same]
  cases present : (split uri).query with
  | none => exact .nil
  | some query =>
      have trimmed := legal.query _ (Option.mem_map_of_mem _ present)
      have escapes := trimmed.escapes (by decide)
      rcases Text.dropFinalNewline_cases query with ⟨kept, -⟩ | ended
      · rwa [kept] at escapes
      · rw [Option.getD_some, ended]
        exact escapes.append (.char (by decide) .nil)

theorem decompose_userInfo_escapes {uri : Text} {components : Components}
    (accepted : decompose uri = .ok components) :
    Spelled (· != '%') (components.userInfo.getD []) := by
  cases present : components.userInfo with
  | none => exact .nil
  | some userInfo => exact (decompose_userInfo_spelled accepted userInfo present).escapes (by decide)

end ConnectionUri.Uri

/-!
## Pieces that decode
-/

namespace ConnectionUri.Query

open Percent Uri

theorem rawEntry_escapes {segment : Text} (spelled : Spelled (· != '%') segment) :
    Spelled (· != '%') (rawEntry segment).1 ∧ Spelled (· != '%') (rawEntry segment).2 := by
  obtain ⟨name, value⟩ := spelled.ofCut (show ('=' == '%' || Text.isHexDigit '=') = false by decide)
  unfold rawEntry
  split
  · next key rest found =>
      rw [found] at name value
      exact ⟨name, value _ rfl⟩
  · next key found =>
      rw [found] at name
      exact ⟨name, .nil⟩

theorem exists_entry_iff {segment : Text} (spelled : Spelled (· != '%') segment) :
    (∃ pair, entry segment = .ok pair) ↔
      ¬ (IllEncoded (rawEntry segment).1 ∨ IllEncoded (rawEntry segment).2) := by
  obtain ⟨ofName, ofValue⟩ := rawEntry_escapes spelled
  rw [not_or, ← exists_decode_iff ofName, ← exists_decode_iff ofValue]
  constructor
  · intro ⟨pair, decoded⟩
    obtain ⟨name, value⟩ := entry_eq_ok_iff.mp decoded
    exact ⟨⟨_, name⟩, ⟨_, value⟩⟩
  · intro ⟨⟨name, decodedName⟩, ⟨value, decodedValue⟩⟩
    exact ⟨(name, value), entry_eq_ok_iff.mpr ⟨decodedName, decodedValue⟩⟩

theorem notUtf8_of_entry {segment : Text} {error : DecodingError}
    (spelled : Spelled (· != '%') segment) (failed : entry segment = .error error) :
    ∃ value, error = .notUtf8 value := by
  obtain ⟨ofName, ofValue⟩ := rawEntry_escapes spelled
  rcases decode_eq_error_of_entry failed with value | name
  · exact ⟨_, ((decode_eq_error_iff ofValue).mp value).1⟩
  · exact ⟨_, ((decode_eq_error_iff ofName).mp name).1⟩

end ConnectionUri.Query

namespace ConnectionUri.UserInfo

open Percent Uri

theorem rawParts_escapes {userInfo : Text} (spelled : Spelled (· != '%') userInfo) :
    Spelled (· != '%') (rawParts userInfo).1 ∧ Spelled (· != '%') (rawParts userInfo).2 := by
  obtain ⟨name, password⟩ :=
    spelled.ofCut (show (':' == '%' || Text.isHexDigit ':') = false by decide)
  unfold rawParts
  split
  · next username rest found =>
      rw [found] at name password
      exact ⟨name, password _ rfl⟩
  · next username found =>
      rw [found] at name
      exact ⟨name, .nil⟩

theorem exists_parse_iff {userInfo : Text} (spelled : Spelled (· != '%') userInfo) :
    (∃ parsed, parse userInfo = .ok parsed) ↔
      ¬ (IllEncoded (rawParts userInfo).1 ∨ IllEncoded (rawParts userInfo).2) := by
  obtain ⟨ofName, ofPassword⟩ := rawParts_escapes spelled
  rw [not_or, ← exists_decode_iff ofName, ← exists_decode_iff ofPassword]
  constructor
  · intro ⟨parsed, read⟩
    obtain ⟨username, password, name, secret, -⟩ := parse_eq_ok_iff.mp read
    exact ⟨⟨username, name⟩, ⟨password, secret⟩⟩
  · intro ⟨⟨username, name⟩, ⟨password, secret⟩⟩
    exact ⟨_, parse_eq_ok_iff.mpr ⟨username, password, name, secret, rfl⟩⟩

theorem notUtf8_of_parse {userInfo : Text} {error : DecodingError}
    (spelled : Spelled (· != '%') userInfo) (failed : parse userInfo = .error error) :
    ∃ value, error = .notUtf8 value := by
  obtain ⟨ofName, ofPassword⟩ := rawParts_escapes spelled
  rcases decode_eq_error_of_parse failed with name | password
  · exact ⟨_, ((decode_eq_error_iff ofName).mp name).1⟩
  · exact ⟨_, ((decode_eq_error_iff ofPassword).mp password).1⟩

end ConnectionUri.UserInfo

/-!
## The three results of reading
-/

namespace ConnectionUri.Uri

open Percent

/-- A name or a value of a segment of the query, or a part of a user-info that is not empty, stands
for no UTF-8. -/
def Components.IllEncoded (components : Components) : Prop :=
  (∃ query ∈ components.query, ∃ segment ∈ Query.segments query,
    Percent.IllEncoded (Query.rawEntry segment).1 ∨
      Percent.IllEncoded (Query.rawEntry segment).2) ∨
  ∃ userInfo ∈ components.userInfo, userInfo ≠ [] ∧
    (Percent.IllEncoded (UserInfo.rawParts userInfo).1 ∨
      Percent.IllEncoded (UserInfo.rawParts userInfo).2)

theorem exists_query_entries_iff {uri : Text} {components : Components}
    (accepted : decompose uri = .ok components) :
    (∃ pairs, Query.entries (Query.segments (components.query.getD [])) = .ok pairs) ↔
      ¬ ∃ query ∈ components.query, ∃ segment ∈ Query.segments query,
        Percent.IllEncoded (Query.rawEntry segment).1 ∨
          Percent.IllEncoded (Query.rawEntry segment).2 := by
  have escapes := decompose_query_escapes accepted
  cases present : components.query with
  | none => simp [Query.entries]
  | some query =>
      rw [present, Option.getD_some] at escapes
      rw [Option.getD_some, Query.exists_entries_iff]
      have ofSegment : ∀ segment ∈ Query.segments query, Spelled (· != '%') segment :=
        fun segment member => Query.spelled_of_mem_segments (by decide) escapes member
      constructor
      · rintro decodes ⟨_, ⟨⟩, segment, member, broken⟩
        exact (Query.exists_entry_iff (ofSegment segment member)).mp (decodes segment member) broken
      · intro whole segment member
        refine (Query.exists_entry_iff (ofSegment segment member)).mpr fun broken => ?_
        exact whole ⟨query, rfl, segment, member, broken⟩

theorem exists_userInfo_parse_iff {uri : Text} {components : Components}
    (accepted : decompose uri = .ok components) :
    (∃ parsed, UserInfo.parse (components.userInfo.getD []) = .ok parsed) ↔
      ¬ ∃ userInfo ∈ components.userInfo, userInfo ≠ [] ∧
        (Percent.IllEncoded (UserInfo.rawParts userInfo).1 ∨
          Percent.IllEncoded (UserInfo.rawParts userInfo).2) := by
  have escapes := decompose_userInfo_escapes accepted
  have empty : ∃ parsed, UserInfo.parse [] = .ok parsed := ⟨_, rfl⟩
  cases present : components.userInfo with
  | none => simpa using empty
  | some userInfo =>
      rw [present, Option.getD_some] at escapes
      rw [Option.getD_some]
      cases userInfo with
      | nil => simpa using empty
      | cons first rest =>
          rw [UserInfo.exists_parse_iff escapes]
          simp

end ConnectionUri.Uri

namespace ConnectionUri.Connection

open Uri

theorem exists_hasSources_iff {uri : Text} {components : Components}
    (accepted : decompose uri = .ok components) :
    (∃ sources, HasSources uri sources) ↔ ¬ components.IllEncoded := by
  rw [Components.IllEncoded, not_or, ← exists_query_entries_iff accepted,
    ← exists_userInfo_parse_iff accepted]
  constructor
  · intro ⟨sources, has⟩
    obtain rfl := Except.ok.inj (accepted.symm.trans has.decomposed)
    exact ⟨⟨_, has.pairs⟩,
      _, UserInfo.parse_eq_ok_iff.mpr ⟨_, _, has.username, has.password, rfl⟩⟩
  · intro ⟨⟨pairs, decoded⟩, ⟨parsed, read⟩⟩
    obtain ⟨username, password, name, secret, -⟩ := UserInfo.parse_eq_ok_iff.mp read
    exact ⟨⟨components, pairs, username, password⟩, accepted, decoded, name, secret⟩

/-- A text is refused, or it has pieces that stand for no UTF-8, or it has a configuration. -/
theorem configuration_cases (policy : ParameterPolicy) (uri : Text) :
    (∃ refusal, decompose uri = .error refusal ∧
      configuration policy (.text uri) = .error (.ofRefusal refusal)) ∨
    (∃ components, decompose uri = .ok components ∧ components.IllEncoded ∧
      ∃ value, configuration policy (.text uri) = .error (.undecodable (.notUtf8 value))) ∨
    ∃ components, decompose uri = .ok components ∧ ¬ components.IllEncoded ∧
      ∃ found, configuration policy (.text uri) = .ok found := by
  cases accepted : decompose uri with
  | error refusal =>
      refine .inl ⟨refusal, rfl, ?_⟩
      rw [configuration_text, accepted]
  | ok components =>
      have escapes := decompose_query_escapes accepted
      have userInfoEscapes := decompose_userInfo_escapes accepted
      cases pairs : Query.entries (Query.segments (components.query.getD [])) with
      | error error =>
          have broken : components.IllEncoded := by
            refine .inl (Classical.byContradiction fun whole => ?_)
            obtain ⟨list, decoded⟩ := (exists_query_entries_iff accepted).mpr whole
            rw [decoded] at pairs
            cases pairs
          obtain ⟨segment, member, failed⟩ := Query.exists_entry_eq_error pairs
          obtain ⟨value, rfl⟩ := Query.notUtf8_of_entry
            (Query.spelled_of_mem_segments (by decide) escapes member) failed
          refine .inr (.inl ⟨components, rfl, broken, value, ?_⟩)
          simp only [configuration_text, accepted, decodedQuery_eq, pairs, Except.map]
      | ok list =>
          cases parsed : UserInfo.parse (components.userInfo.getD []) with
          | error error =>
              have broken : components.IllEncoded := by
                refine .inr (Classical.byContradiction fun whole => ?_)
                obtain ⟨read, decoded⟩ := (exists_userInfo_parse_iff accepted).mpr whole
                rw [decoded] at parsed
                cases parsed
              obtain ⟨value, rfl⟩ := UserInfo.notUtf8_of_parse userInfoEscapes parsed
              refine .inr (.inl ⟨components, rfl, broken, value, ?_⟩)
              simp only [configuration_text, accepted, decodedQuery_eq, decodedUserInfo_eq, pairs,
                parsed, Except.map]
          | ok userInfo =>
              obtain ⟨username, password, name, secret, -⟩ := UserInfo.parse_eq_ok_iff.mp parsed
              have has : HasSources uri ⟨components, list, username, password⟩ :=
                ⟨accepted, pairs, name, secret⟩
              exact .inr (.inr ⟨components, rfl, (exists_hasSources_iff accepted).mp ⟨_, has⟩, _,
                has.configuration_eq policy⟩)

end ConnectionUri.Connection

/-!
## Outcomes
-/

namespace ConnectionUri.Connection

open Uri

/-- An outcome attributes the failure of a text to the side at fault: to the client if the text does
not decompose, and to neither side unless a piece stands for no UTF-8. It holds a configuration or a
fault, and hands out what reading the text gives. -/
structure Attributes (policy : ParameterPolicy) (uri : Text) (outcome : Outcome Text) : Prop where
  refused : (∃ refusal, decompose uri = .error refusal) →
    (∃ cause, configuration policy (.text uri) = .error (.invalidUri cause)) ∧
      outcome.fault = some .client
  undecodable : ∀ components, decompose uri = .ok components →
    ((∃ cause, configuration policy (.text uri) = .error (.undecodable cause)) ↔
      components.IllEncoded) ∧
    (outcome.fault = some .internal ↔ components.IllEncoded)
  otherwise : ∀ components, decompose uri = .ok components → ¬ components.IllEncoded →
    outcome.isOk = true
  success : ∀ found, configuration policy (.text uri) = .ok found → outcome.unwrap = .ok found
  failure : ∀ error, configuration policy (.text uri) = .error error →
    ∃ report, error.report = .ok report ∧ outcome.unwrap = .error (.reported report)
  exclusive : outcome.configuration.isSome = !outcome.fault.isSome

private theorem attributes_of_refused {policy : ParameterPolicy} {uri : Text} {cause : SyntaxError}
    (refused : decompose uri = .error (.syntaxError cause))
    (failed : configuration policy (.text uri) = .error (.invalidUri cause)) :
    Attributes policy uri (.failure ⟨.invalidUriSyntax, cause.message⟩) where
  refused := fun _ => ⟨⟨cause, failed⟩, rfl⟩
  undecodable := by
    intro components accepted
    rw [refused] at accepted
    cases accepted
  otherwise := by
    intro components accepted
    rw [refused] at accepted
    cases accepted
  success := by
    intro found read
    rw [failed] at read
    cases read
  failure := by
    intro error read
    rw [failed] at read
    cases read
    exact ⟨_, rfl, rfl⟩
  exclusive := rfl

private theorem attributes_of_illEncoded {policy : ParameterPolicy} {uri : Text}
    {components : Components} {cause : Percent.DecodingError}
    (accepted : decompose uri = .ok components) (broken : components.IllEncoded)
    (failed : configuration policy (.text uri) = .error (.undecodable cause)) :
    Attributes policy uri (.failure ⟨.decoding, cause.message⟩) where
  refused := by
    intro ⟨refusal, refused⟩
    rw [accepted] at refused
    cases refused
  undecodable := by
    intro other same
    obtain rfl := Except.ok.inj (accepted.symm.trans same)
    exact ⟨⟨fun _ => broken, fun _ => ⟨cause, failed⟩⟩, ⟨fun _ => broken, fun _ => rfl⟩⟩
  otherwise := by
    intro other same whole
    obtain rfl := Except.ok.inj (accepted.symm.trans same)
    exact absurd broken whole
  success := by
    intro found read
    rw [failed] at read
    cases read
  failure := by
    intro error read
    rw [failed] at read
    cases read
    exact ⟨_, rfl, rfl⟩
  exclusive := rfl

private theorem attributes_of_read {policy : ParameterPolicy} {uri : Text}
    {components : Components} {found : Configuration Text}
    (accepted : decompose uri = .ok components) (whole : ¬ components.IllEncoded)
    (read : configuration policy (.text uri) = .ok found) :
    Attributes policy uri (.success found) where
  refused := by
    intro ⟨refusal, refused⟩
    rw [accepted] at refused
    cases refused
  undecodable := by
    intro other same
    obtain rfl := Except.ok.inj (accepted.symm.trans same)
    simp [read, whole, Outcome.success]
  otherwise := fun _ _ _ => rfl
  success := by
    intro other same
    obtain rfl := Except.ok.inj (read.symm.trans same)
    rfl
  failure := by
    intro error failed
    rw [read] at failed
    cases failed
  exclusive := rfl

/-- No text makes the decoder meet an escape that is not whole. -/
theorem configuration_ne_malformedEscape (policy : ParameterPolicy) (uri : Text) (index : Nat)
    (value : Text) :
    configuration policy (.text uri) ≠ .error (.undecodable (.malformedEscape index value)) := by
  intro malformed
  rcases configuration_cases policy uri with ⟨refusal, -, failed⟩ | ⟨-, -, -, culprit, failed⟩ |
    ⟨-, -, -, found, read⟩
  · rw [malformed] at failed
    cases refusal <;> cases failed
  · rw [malformed] at failed
    cases failed
  · rw [malformed] at read
    cases read

theorem parse_error_ne_malformedEscape (policy : ParameterPolicy) (uri : Text)
    {outcome : Outcome Text} (parsed : (parse policy (.text uri)).result = .ok outcome)
    (index : Nat) (value : Text) :
    outcome.error ≠ some ⟨.decoding, (Percent.DecodingError.malformedEscape index value).message⟩ := by
  intro malformed
  rw [parse_result] at parsed
  rcases configuration_cases policy uri with ⟨refusal, -, failed⟩ | ⟨-, -, -, culprit, failed⟩ |
    ⟨-, -, -, found, read⟩
  · rw [failed] at parsed
    cases refusal with
    | syntaxError cause =>
        cases parsed
        cases malformed
    | portTooLong tooLong => cases parsed
  · rw [failed] at parsed
    cases parsed
    -- The two messages of the decoder begin with different letters.
    have letters := congrArg (fun report => report.map (·.message.head?)) malformed
    cases letters
  · rw [read] at parsed
    cases parsed
    cases malformed

/-- Unless its port is too long to convert, a text has an outcome, and the outcome attributes its
failure exactly. Neither reading nor parsing ever reports a malformed escape. -/
theorem parse_attributes (policy : ParameterPolicy) (uri : Text) :
    ((∀ digits, ¬ HasLongPort (.text uri) digits) →
      ∃ outcome, (parse policy (.text uri)).result = .ok outcome ∧
        Attributes policy uri outcome) ∧
    (∀ index value, configuration policy (.text uri) ≠
      .error (.undecodable (.malformedEscape index value))) ∧
    ∀ outcome, (parse policy (.text uri)).result = .ok outcome → ∀ index value,
      outcome.error ≠
        some ⟨.decoding, (Percent.DecodingError.malformedEscape index value).message⟩ := by
  refine ⟨fun short => ?_, configuration_ne_malformedEscape policy uri,
    fun outcome parsed => parse_error_ne_malformedEscape policy uri parsed⟩
  rw [parse_result]
  rcases configuration_cases policy uri with ⟨refusal, refused, failed⟩ |
    ⟨components, accepted, broken, culprit, failed⟩ | ⟨components, accepted, whole, found, read⟩
  · cases refusal with
    | syntaxError cause =>
        refine ⟨.failure ⟨.invalidUriSyntax, cause.message⟩, ?_,
          attributes_of_refused refused failed⟩
        rw [failed]
        rfl
    | portTooLong tooLong =>
        exact absurd (hasLongPort_iff.mpr ⟨uri, rfl, refused⟩) (short tooLong.digits)
  · refine ⟨.failure ⟨.decoding, (Percent.DecodingError.notUtf8 culprit).message⟩, ?_,
      attributes_of_illEncoded accepted broken failed⟩
    rw [failed]
    rfl
  · refine ⟨.success found, ?_, attributes_of_read accepted whole read⟩
    rw [read]

/-- A sequence of bytes that a character beyond ASCII interrupts is an internal fault. -/
theorem parse_interrupted_sequence :
    (∀ digits, ¬ HasLongPort (.text "ssh://host/?k=%C3é%A9".toList) digits) ∧
      ∃ outcome, (parse .unrestricted (.text "ssh://host/?k=%C3é%A9".toList)).result =
        .ok outcome ∧ outcome.fault = some .internal := by
  have accepted : decompose "ssh://host/?k=%C3é%A9".toList =
      .ok ⟨some "ssh".toList, none, some "host".toList, none, some "k=%C3é%A9".toList⟩ := rfl
  have short : ∀ digits, ¬ HasLongPort (.text "ssh://host/?k=%C3é%A9".toList) digits := by
    intro digits long
    obtain ⟨text, same, refused⟩ := hasLongPort_iff.mp long
    cases same
    rw [accepted] at refused
    cases refused
  have broken : Percent.IllEncoded "%C3é%A9".toList :=
    ⟨"%C3".toList, .head _, Utf8.decode?_eq_none_iff.mp rfl⟩
  obtain ⟨outcome, parsed, attributes⟩ := (parse_attributes .unrestricted _).1 short
  refine ⟨short, outcome, parsed, (attributes.undecodable _ accepted).2.mpr ?_⟩
  exact .inl ⟨_, rfl, "k=%C3é%A9".toList, .head _, .inr broken⟩

end ConnectionUri.Connection
