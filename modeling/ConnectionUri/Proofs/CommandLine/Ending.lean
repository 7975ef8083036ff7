import ConnectionUri.CommandLine.Run
import ConnectionUri.Proofs.Connection.Reading
import ConnectionUri.Proofs.Log.Formatting

/-!
# How a command ends

Every record that parsing a URI leaves can be formatted, so the log never keeps a command from its
end: `ending_runCommand` gives the end of a command from the outcome of its URI alone. An argument
that does not look like an option is the URI of its command.
-/

set_option autoImplicit false

/-!
## The records of a parse
-/

namespace ConnectionUri

open Log

theorem Uri.formats_decomposedRecord (components : Components) :
    (decomposedRecord components).Formats := by
  obtain ⟨scheme, userInfo, host, port, query⟩ := components
  -- An absent scheme or port is logged as a value of another kind.
  cases scheme <;> cases port <;> exact ⟨_, rfl⟩

theorem Uri.formats_decomposeValue (uri : Value) : (decomposeValue uri).Formats := by
  cases uri with
  | text text =>
      intro record member
      replace member : record ∈ decomposeRecords text := member
      unfold decomposeRecords at member
      cases decomposed : decompose text with
      | error refusal =>
          rw [decomposed] at member
          cases member
      | ok components =>
          simp only [decomposed, List.mem_append, List.mem_singleton] at member
          rcases member with member | rfl
          · split at member
            · cases List.mem_singleton.mp member
              exact ⟨_, rfl⟩
            · cases member
          · exact formats_decomposedRecord components
  | _ => exact .of_nil rfl

theorem Query.formats_segmentRecords (segment : Text) :
    ∀ record ∈ segmentRecords segment, record.Formats := by
  intro record member
  unfold segmentRecords at member
  split at member
  · cases List.mem_singleton.mp member
    exact ⟨_, rfl⟩
  · cases member

theorem Query.formats_recordsOf (segments : List Text) :
    ∀ record ∈ recordsOf segments, record.Formats := by
  induction segments with
  | nil => simp [recordsOf]
  | cons segment rest ih =>
      intro record member
      rw [recordsOf, List.mem_append] at member
      rcases member with member | member
      · exact formats_segmentRecords segment record member
      · split at member
        · exact ih record member
        · cases member

namespace Connection

theorem formats_readQuery (query : Option Text) : (readQuery query).Formats := by
  match query with
  | none => exact .of_nil rfl
  | some [] => exact .of_nil rfl
  | some (first :: rest) =>
      have formats : (Query.read (first :: rest)).Formats :=
        Query.formats_recordsOf (Query.segments (first :: rest))
      exact formats.mapError _

theorem formats_readUserInfo (userInfo : Option Text) : (readUserInfo userInfo).Formats := by
  match userInfo with
  | none => exact .of_nil rfl
  | some [] => exact .of_nil rfl
  | some (_ :: _) => exact .of_nil rfl

theorem formats_droppedRecords (policy : ParameterPolicy) (query : ParameterMap Text) :
    ∀ record ∈ droppedRecords policy query, record.Formats := by
  intro record member
  obtain ⟨name, -, rfl⟩ := List.mem_map.mp member
  exact ⟨_, rfl⟩

theorem formats_parsedRecord (configuration : Configuration Text) :
    (parsedRecord configuration).Formats := ⟨_, rfl⟩

theorem formats_failedRecord (report : ErrorReport) : (failedRecord report).Formats := ⟨_, rfl⟩

theorem formats_read (policy : ParameterPolicy) (uri : Value) : (read policy uri).Formats := by
  refine .bind (.mapError (Uri.formats_decomposeValue uri) _) fun components => ?_
  refine .bind (formats_readQuery components.query) fun query => ?_
  refine .bind (formats_droppedRecords policy query) fun _ => ?_
  refine .bind (formats_readUserInfo components.userInfo) fun userInfo => ?_
  refine .bind ?_ fun _ => .of_nil rfl
  intro record member
  cases List.mem_singleton.mp member
  exact formats_parsedRecord _

theorem formats_parse (policy : ParameterPolicy) (uri : Value) : (parse policy uri).Formats := by
  have formats := formats_read policy uri
  unfold parse
  simp only []
  split
  · exact formats
  · split
    · intro record member
      rcases List.mem_append.mp member with member | member
      · exact formats record member
      · cases List.mem_singleton.mp member
        exact formats_failedRecord _
    · exact formats

end Connection

end ConnectionUri

/-!
## Ends
-/

namespace ConnectionUri.CommandLine

/-- The end of a command depends on the outcome of its URI, and not on the log. -/
theorem ending_runCommand (stamp : Text) (policy : ParameterPolicy) (command : Command)
    (journal : Log.Journal) :
    (runCommand stamp policy command journal).ending =
      match (Connection.parse policy (.text command.uri)).result with
      | .error error => .fatal (.portTooLong error)
      | .ok outcome => endingOf command outcome := by
  have logged := Log.Journal.logAll_of_formats
    (Connection.formats_parse policy (.text command.uri)) stamp journal
  unfold runCommand
  simp only []
  cases written : journal.logAll stamp (Connection.parse policy (.text command.uri)).records with
  | mk error next =>
      rw [written] at logged
      cases logged
      simp only []
      cases (Connection.parse policy (.text command.uri)).result with
      | error error => rfl
      | ok outcome => rfl

/-- A command whose URI has a configuration prints it and exits with zero. -/
theorem ending_of_configuration {policy : ParameterPolicy} {found : Configuration Text}
    (command : Command) (read : Connection.configuration policy (.text command.uri) = .ok found)
    (stamp : Text) (journal : Log.Journal) :
    (runCommand stamp policy command journal).ending = .exit 0 (commandOutput command found) := by
  rw [ending_runCommand, Connection.parse_result, read]
  rfl

end ConnectionUri.CommandLine

/-!
## Arguments
-/

namespace ConnectionUri.CommandLine

variable {uri : Text}

theorem looksLikeOption_cons {first : Char} (differs : first ≠ '-') (rest : Text) :
    looksLikeOption (first :: rest) = false := by
  unfold looksLikeOption
  split
  · next same => exact absurd (List.cons.inj same).1 differs
  · rfl

theorem sortArguments_cons (plain : looksLikeOption uri = false) (known : List OptionName)
    (rest : List Text) :
    sortArguments known true (uri :: rest) =
      (sortArguments known true rest).map (·.withArgument uri) := by
  have noMark : uri ≠ "--".toList := by
    rintro rfl
    cases plain
  simp only [sortArguments, noMark, if_false, plain, Bool.false_eq_true, if_true]

theorem runNamed_name (plain : looksLikeOption uri = false) (stamp : Text)
    (policy : ParameterPolicy) (journal : Log.Journal) :
    runNamed stamp policy .name [uri] journal = runCommand stamp policy (.name uri) journal := by
  rw [runNamed, sortArguments_cons plain]
  rfl

/-- The arguments of a parse, with or without the option for JSON. -/
def parseArguments (json : Bool) (uri : Text) : List Text :=
  if json then [uri, OptionName.json.spelling] else [uri]

theorem runNamed_parse (plain : looksLikeOption uri = false) (stamp : Text)
    (policy : ParameterPolicy) (json : Bool) (journal : Log.Journal) :
    runNamed stamp policy .parse (parseArguments json uri) journal =
      runCommand stamp policy (.parse uri json false) journal := by
  cases json with
  | false =>
      rw [parseArguments, if_neg Bool.false_ne_true, runNamed, sortArguments_cons plain]
      rfl
  | true =>
      rw [parseArguments, if_pos rfl, runNamed, sortArguments_cons plain]
      rfl

end ConnectionUri.CommandLine
