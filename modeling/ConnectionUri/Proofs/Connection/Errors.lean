import ConnectionUri.Proofs.Connection.Reading
import ConnectionUri.Proofs.Uri.Composition

/-!
# The errors of connections

A value gives an outcome unless it is a legal URI whose port has more digits than are ever
converted to a number. `parse_isOutcome_iff` says that this is the only exception, and that every
other failure to give a configuration is a syntax error or a decoding error.
-/

set_option autoImplicit false

namespace ConnectionUri.Uri

/-- The one failure of a decomposition that is no syntax error comes after every syntax check. -/
theorem decompose_eq_portTooLong_iff {text : Text} {error : PortTooLong} :
    decompose text = .error (.portTooLong error) ↔ (split text).trimmed.Legal ∧
      ∃ digits, (serverOf? (split text)).bind Server.port = some digits ∧
        Text.digitLimit < digits.length ∧ error = ⟨digits.length⟩ := by
  constructor
  · intro decomposed
    rcases decompose_cases text with ⟨-, part, refused⟩ | ⟨-, -, accepted⟩ |
      ⟨legal, digits, present, long, refused⟩
    · simp [refused] at decomposed
    · simp [accepted] at decomposed
    · rw [refused] at decomposed
      cases decomposed
      exact ⟨legal, digits, present, long, rfl⟩
  · intro ⟨legal, digits, present, long, same⟩
    exact decompose_of_long legal (portNumber_eq_error_iff.mpr ⟨digits, present, long, same⟩)

end ConnectionUri.Uri

namespace ConnectionUri.Connection

open Uri

/-- The value is a text whose components, each without one line feed at its end, are legal, and the
server form of its authority has a port of the given number of digits, more than are ever
converted. -/
def HasLongPort (uri : Value) (digits : Nat) : Prop :=
  ∃ (text : Text) (parts : Split) (server : Server) (port : Text),
    uri = .text text ∧ FirstMarks text parts ∧ parts.trimmed.Legal ∧
    server.Legal ∧ parts.trimmed.authority = some server.join ∧ server.port = some port ∧
    port.length = digits ∧ Text.digitLimit < digits

theorem hasLongPort_iff {uri : Value} {digits : Nat} :
    HasLongPort uri digits ↔
      ∃ text, uri = .text text ∧ decompose text = .error (.portTooLong ⟨digits⟩) := by
  constructor
  · intro ⟨text, parts, server, port, same, splits, legal, serverLegal, written, present, count, long⟩
    obtain rfl := splits.eq_split
    subst count
    refine ⟨text, same, decompose_eq_portTooLong_iff.mpr ⟨legal, port, ?_, long, rfl⟩⟩
    rw [serverOf?_eq_some_iff.mpr ⟨serverLegal, written⟩]
    exact present
  · intro ⟨text, same, refused⟩
    obtain ⟨legal, port, present, long, count⟩ := decompose_eq_portTooLong_iff.mp refused
    obtain ⟨server, found, written⟩ := Option.bind_eq_some_iff.mp present
    obtain ⟨serverLegal, joined⟩ := serverOf?_eq_some_iff.mp found
    cases count
    exact ⟨text, split text, server, port, same, firstMarks_split text, legal, serverLegal, joined,
      written, rfl, long⟩

/-- A configuration fails with neither a syntax error nor a decoding error exactly when the port is
too long. -/
theorem configuration_eq_portTooLong_iff (policy : ParameterPolicy) {uri : Value} {digits : Nat} :
    configuration policy uri = .error (.portTooLong ⟨digits⟩) ↔ HasLongPort uri digits := by
  rw [hasLongPort_iff]
  by_cases isText : ∃ text, uri = .text text
  · obtain ⟨text, rfl⟩ := isText
    simp only [Value.text.injEq, exists_eq_left', configuration_text]
    cases decompose text with
    | error refusal => cases refusal <;> simp [ConnectionError.ofRefusal]
    | ok components =>
        simp only []
        cases decodedQuery components.query with
        | error error => simp
        | ok query =>
            simp only []
            cases decodedUserInfo components.userInfo with
            | error error => simp
            | ok userInfo => simp
  · have refused := configuration_of_not_text policy fun text same => isText ⟨text, same⟩
    constructor
    · intro failed
      rw [refused] at failed
      cases failed
    · intro ⟨text, same, _⟩
      exact absurd ⟨text, same⟩ isText

theorem parse_eq_error_iff (policy : ParameterPolicy) {uri : Value} {digits : Nat} :
    (parse policy uri).result = .error ⟨digits⟩ ↔ HasLongPort uri digits := by
  rw [← configuration_eq_portTooLong_iff policy, parse_result]
  cases configuration policy uri with
  | ok configuration => simp
  | error error => cases error <;> simp [ConnectionError.report, Except.map]

/-- Parsing a value gives an outcome, and reading it fails with a syntax error or a decoding error
if at all, exactly when the value is no legal URI with a port that is too long. Such a value fails
with the number of its digits instead. -/
theorem parse_isOutcome_iff (policy : ParameterPolicy) (uri : Value) :
    ((∃ outcome, (parse policy uri).result = .ok outcome) ↔ ∀ digits, ¬ HasLongPort uri digits) ∧
    ((∀ error, configuration policy uri = .error error →
        (∃ cause, error = .invalidUri cause) ∨ ∃ cause, error = .undecodable cause) ↔
      ∀ digits, ¬ HasLongPort uri digits) ∧
    ∀ digits, HasLongPort uri digits →
      (parse policy uri).result = .error ⟨digits⟩ ∧
        configuration policy uri = .error (.portTooLong ⟨digits⟩) := by
  refine ⟨⟨?_, ?_⟩, ⟨?_, ?_⟩, ?_⟩
  · intro ⟨outcome, parsed⟩ digits long
    rw [(parse_eq_error_iff policy).mpr long] at parsed
    cases parsed
  · intro short
    cases parsed : (parse policy uri).result with
    | ok outcome => exact ⟨outcome, rfl⟩
    | error tooLong => exact absurd ((parse_eq_error_iff policy).mp parsed) (short tooLong.digits)
  · intro reported digits long
    have failed := reported _ ((configuration_eq_portTooLong_iff policy).mpr long)
    rcases failed with ⟨cause, same⟩ | ⟨cause, same⟩ <;> cases same
  · intro short error failed
    cases error with
    | invalidUri cause => exact .inl ⟨cause, rfl⟩
    | undecodable cause => exact .inr ⟨cause, rfl⟩
    | portTooLong tooLong =>
        exact absurd ((configuration_eq_portTooLong_iff policy).mp failed) (short tooLong.digits)
  · intro digits long
    exact ⟨(parse_eq_error_iff policy).mpr long, (configuration_eq_portTooLong_iff policy).mpr long⟩

private def zeroServer (count : Nat) : Server := ⟨none, "host".toList, some (.replicate count '0')⟩

private theorem zeroServer_legal (count : Nat) : (zeroServer count).Legal where
  userInfo := by simp [zeroServer]
  host := by
    have permitted : "host".toList.all isNameChar = true := by decide
    exact .name (.of_forall (List.all_eq_true.mp permitted))
  port := by
    intro digits present digit member
    cases present
    rw [List.eq_of_mem_replicate member]
    rfl

private theorem hasLongPort_zeros {count : Nat} (long : Text.digitLimit < count) :
    HasLongPort (.text ("ssh://host:".toList ++ .replicate count '0')) count := by
  have legal : Split.Legal ⟨some "ssh".toList, some (zeroServer count).join, [], none, none⟩ := {
    scheme := by
      intro scheme present
      cases present
      rfl
    authority := by
      intro authority present
      cases present
      exact .inl ⟨zeroServer count, zeroServer_legal count, rfl⟩
    path := .nil
    query := by simp
    fragment := by simp }
  have written : Split.join ⟨some "ssh".toList, some (zeroServer count).join, [], none, none⟩ =
      "ssh://host:".toList ++ .replicate count '0' := by
    simp [Split.join, closed, marked, Server.join, zeroServer]
  have splits := legal.firstMarks rfl (.inl rfl)
  rw [written] at splits
  exact ⟨_, _, zeroServer count, _, rfl, splits, legal.trimmed_eq_self.symm ▸ legal,
    zeroServer_legal count, congrArg Split.authority legal.trimmed_eq_self, rfl,
    List.length_replicate, long⟩

/-- A port of 4301 zeros leaves no outcome. -/
theorem parse_zero_port_too_long :
    HasLongPort (.text ("ssh://host:".toList ++ .replicate 4301 '0')) 4301 ∧
      ¬ ∃ outcome, (parse .unrestricted
        (.text ("ssh://host:".toList ++ .replicate 4301 '0'))).result = .ok outcome := by
  have long := hasLongPort_zeros (show Text.digitLimit < 4301 by decide)
  refine ⟨long, fun parsed => ?_⟩
  exact (parse_isOutcome_iff .unrestricted _).1.mp parsed 4301 long

end ConnectionUri.Connection
