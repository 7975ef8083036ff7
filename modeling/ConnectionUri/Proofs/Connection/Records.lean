import ConnectionUri.Log.Template
import ConnectionUri.Proofs.Connection.Faults

/-!
# The records of a parse

A parse of an accepted text leaves the records of its decomposition, then those of its query, and
then one that tells how the parse ended. A parse of a refused text leaves one record, whose message
quotes the text.
-/

set_option autoImplicit false

namespace ConnectionUri.Log.Traced

variable {ε α β : Type}

theorem records_bind (first : Traced ε α) (next : α → Traced ε β) :
    (first >>= next).records = first.records ++
      match first.result with
      | .ok value => (next value).records
      | .error _ => [] := by
  cases found : first.result with
  | ok value => simp [Bind.bind, andThen, found]
  | error error => simp [Bind.bind, andThen, found]

end ConnectionUri.Log.Traced

namespace ConnectionUri.Connection

open Uri Log

/-- What the record of a failed parse says before the message of the failure. -/
def failedLead : Text := "Parsing connection URI failed: ".toList

theorem message_failedRecord (report : ErrorReport) :
    (failedRecord report).message = .ok (failedLead ++ report.message) := by
  have padded : (failedRecord report).message =
      .ok (failedLead ++ (List.replicate (0 - report.message.length) ' ' ++ report.message ++ [])) := rfl
  simpa using padded

def registryLead : Text := "Authority '".toList

def registryEnd : Text := "' is not server-based; host left unset".toList

/-- The message about an authority without a server. -/
def registryMessage (name : Text) : Text := registryLead ++ name ++ registryEnd

theorem message_registryRecord (name : Text) :
    (registryRecord name).message = .ok (registryMessage name) := by
  have padded : (registryRecord name).message =
      .ok (registryLead ++ (List.replicate (0 - name.length) ' ' ++ name ++ registryEnd)) := rfl
  rw [padded, Nat.zero_sub, List.replicate_zero, List.nil_append, ← List.append_assoc,
    registryMessage]

def undecodableLead : Text := "Unable to decode ".toList

def undecodableEnd : Text := " as utf-8".toList

theorem message_notUtf8 (value : Text) :
    (Percent.DecodingError.notUtf8 value).message =
      undecodableLead ++ Text.quoted value ++ undecodableEnd := rfl

/-- The records that a parse leaves after the decomposition. -/
def laterRecords (policy : ParameterPolicy) (components : Components) : List Record :=
  (readQuery components.query).records ++
    match decodedQuery components.query with
    | .error error => [failedRecord ⟨.decoding, error.message⟩]
    | .ok query => droppedRecords policy query ++
      match decodedUserInfo components.userInfo with
      | .error error => [failedRecord ⟨.decoding, error.message⟩]
      | .ok userInfo => [parsedRecord (assemble policy components query userInfo)]

theorem records_readUserInfo (userInfo : Option Text) : (readUserInfo userInfo).records = [] := by
  match userInfo with
  | none => rfl
  | some [] => rfl
  | some (_ :: _) => rfl

/-- A parse leaves the records of reading, and one more if reading fails with a report. -/
theorem records_parse (policy : ParameterPolicy) (uri : Text) :
    (parse policy (.text uri)).records = (read policy (.text uri)).records ++
      match configuration policy (.text uri) with
      | .error (.invalidUri error) => [failedRecord ⟨.invalidUriSyntax, error.message⟩]
      | .error (.undecodable error) => [failedRecord ⟨.decoding, error.message⟩]
      | _ => [] := by
  unfold parse configuration
  cases found : (read policy (.text uri)).result with
  | ok configuration => simp only [found, List.append_nil]
  | error error => cases error <;> simp only [found, ConnectionError.report, List.append_nil]

theorem records_parse_of_accepted (policy : ParameterPolicy) {uri : Text} {components : Components}
    (accepted : decompose uri = .ok components) :
    (parse policy (.text uri)).records = decomposeRecords uri ++ laterRecords policy components := by
  rw [records_parse, configuration_text, laterRecords, accepted]
  simp only [read, Traced.records_bind, Traced.mapError, decomposeValue, textOf, accepted,
    mapError_ok, result_readQuery, result_readUserInfo]
  cases decodedQuery components.query with
  | error error => simp [mapError_error]
  | ok query =>
      cases decodedUserInfo components.userInfo with
      | error error => simp [Traced.notes, records_readUserInfo, mapError_ok, mapError_error]
      | ok userInfo => simp [Traced.notes, Traced.note, records_readUserInfo, mapError_ok]

theorem records_parse_of_refused (policy : ParameterPolicy) {uri : Text} {cause : SyntaxError}
    (refused : decompose uri = .error (.syntaxError cause)) :
    (parse policy (.text uri)).records = [failedRecord ⟨.invalidUriSyntax, cause.message⟩] := by
  have silent : (read policy (.text uri)).records = [] := by
    simp [read, Traced.records_bind, Traced.mapError, decomposeValue, textOf, decomposeRecords,
      refused, mapError_error]
  rw [records_parse, configuration_text, refused, silent]
  rfl

theorem decomposeRecords_of_userInfo {uri : Text} {components : Components}
    (accepted : decompose uri = .ok components) (present : components.userInfo ≠ none) :
    decomposeRecords uri = [decomposedRecord components] := by
  obtain ⟨-, -, written⟩ := decompose_eq_ok_iff.mp accepted
  unfold decomposeRecords
  simp only [accepted]
  split
  · next name registry =>
      have noServer : serverOf? (split uri) = none := by simp only [serverOf?, registry]
      rw [written, Components.ofSplit, noServer] at present
      exact absurd rfl present
  · rfl

end ConnectionUri.Connection
