import ConnectionUri.Proofs.Settings.Layers
import ConnectionUri.Proofs.Value
import ConnectionUri.Settings.Load

/-!
# Loaded settings

What a load gives, by its file and its environment. A file that is read and whose keys are texts
counts as a mapping, an empty one where it has none. With a mapping that goes well with the environment
the settings are those of both, field by field, and with another they are those of the environment
alone. A file that stops its reader stops the load, and so does one with another key than a text:
`load_layered` has all the cases, and `load_succeeds_iff_loadable` says which contents stop a load that
succeeds without a file.
-/

set_option autoImplicit false

namespace ConnectionUri.Settings

/-!
## Named entries
-/

namespace FileMapping

theorem named?_named (entries : Mapping) :
    named? (entries.map fun entry => (some entry.1, entry.2)) = some entries := by
  induction entries with
  | nil => rfl
  | cons entry rest ih =>
      rw [List.map_cons, named?, ih]
      rfl

theorem named?_eq_none_iff {entries : FileMapping} :
    named? entries = none ↔ none ∈ entries.map Prod.fst := by
  induction entries with
  | nil => simp [named?]
  | cons entry rest ih =>
      obtain ⟨key, value⟩ := entry
      cases key with
      | none => simp [named?]
      | some name => simp [named?, ih]

end FileMapping

/-!
## Contents of files
-/

namespace FileContent

/-- The mapping that a content counts as. -/
def mapping : FileContent → Mapping
  | .data (.mapping entries) => entries
  | .keyed entries => entries.named?.getD []
  | _ => []

/-- The value that is built from a content; of a keyed mapping, the values of its keys. -/
def value : FileContent → Value
  | .data value => value
  | .keyed entries => .list (entries.map Prod.snd)
  | _ => .null

def keys : FileContent → List (Option Text)
  | .keyed entries => entries.map Prod.fst
  | _ => []

/-- A content stops its reader with an error. -/
inductive Stops : FileContent → FileError → Prop where
  | undecodable {fault : Utf8.Fault} : Stops (.notUtf8 fault) (.undecodable fault)
  | foreign {error : ForeignError} : Stops (.foreign error) (.foreign error)
  | long {content : FileContent} {long : LongInteger} :
      content.value.longInteger? = some long → Stops content (.foreign (.ofLongInteger long))

/-- A content that is read and whose keys are texts. -/
structure Loadable (content : FileContent) : Prop where
  read : ∀ error, ¬ content.Stops error
  named : none ∉ content.keys

theorem exists_stops_of_holdsLong {content : FileContent} {long : LongInteger}
    (held : content.value.HoldsLong long) : ∃ error, content.Stops error := by
  obtain ⟨first, found, -⟩ := Value.exists_longInteger?_of_holdsLong held
  exact ⟨_, .long found⟩

theorem longInteger?_of_read {content : FileContent} (read : ∀ error, ¬ content.Stops error) :
    content.value.longInteger? = none := by
  rw [Value.longInteger?_eq_none_iff]
  intro long held
  obtain ⟨error, stops⟩ := exists_stops_of_holdsLong held
  exact read error stops

theorem loadable_data_iff {value : Value} :
    (data value).Loadable ↔ ∀ long, ¬ value.HoldsLong long := by
  constructor
  · intro loadable
    exact Value.longInteger?_eq_none_iff.mp (longInteger?_of_read loadable.read)
  · intro short
    refine ⟨?_, List.not_mem_nil⟩
    intro error stops
    cases stops with
    | long found => exact short _ (Value.holdsLong_of_longInteger? value _ found)

theorem loadable_keyed_iff {entries : FileMapping} :
    (keyed entries).Loadable ↔
      (∀ entry ∈ entries, ∀ long, ¬ entry.2.HoldsLong long) ∧ none ∉ entries.map Prod.fst := by
  constructor
  · intro loadable
    refine ⟨?_, loadable.named⟩
    intro entry member long held
    have heldInside : (keyed entries).value.HoldsLong long.deeper :=
      .item (List.mem_map_of_mem member) held
    obtain ⟨error, stops⟩ := exists_stops_of_holdsLong heldInside
    exact loadable.read error stops
  · intro ⟨short, named⟩
    refine ⟨?_, named⟩
    intro error stops
    cases stops with
    | long found =>
        cases Value.holdsLong_of_longInteger? _ _ found with
        | item member held =>
            obtain ⟨entry, memberEntry, rfl⟩ := List.mem_map.mp member
            exact short entry memberEntry _ held

end FileContent

/-!
## Reading files
-/

namespace SettingsFile

variable {file : SettingsFile}

theorem building_of_long {value : Value} {long : LongInteger}
    (found : value.longInteger? = some long) (mapping : Log.Traced FileError FileMapping) :
    building value mapping = .fail (.foreign (.ofLongInteger long)) := by
  rw [building, found]

theorem building_of_short {value : Value} (short : value.longInteger? = none)
    (mapping : Log.Traced FileError FileMapping) : building value mapping = mapping := by
  rw [building, short]

theorem result_read_of_stops {error : FileError} (stops : file.content.Stops error) :
    file.read.result = .error error := by
  obtain ⟨path, content⟩ := file
  cases stops with
  | undecodable => rfl
  | foreign => rfl
  | long found =>
      cases content with
      | data value => exact congrArg Log.Traced.result (building_of_long found _)
      | keyed entries => exact congrArg Log.Traced.result (building_of_long found _)
      | _ => cases found

theorem result_mappingOf (file : SettingsFile) (value : Value) :
    ∃ entries, (file.mappingOf value).result = .ok entries ∧
      entries.named? = some (FileContent.data value).mapping := by
  cases value with
  | mapping entries => exact ⟨_, rfl, FileMapping.named?_named entries⟩
  | _ =>
      refine ⟨[], ?_, rfl⟩
      simp only [mappingOf]
      split <;> rfl

/-- A file that is read is a mapping, whose keys are named if all of them are texts. -/
theorem result_read_of_read (reads : ∀ error, ¬ file.content.Stops error) :
    ∃ entries, file.read.result = .ok entries ∧
      (none ∉ file.content.keys → entries.named? = some file.content.mapping) ∧
      (none ∈ file.content.keys → entries.named? = none) := by
  have short := FileContent.longInteger?_of_read reads
  obtain ⟨path, content⟩ := file
  cases content with
  | notUtf8 fault => exact absurd .undecodable (reads _)
  | foreign error => exact absurd .foreign (reads _)
  | data value =>
      obtain ⟨entries, found, named⟩ := result_mappingOf ⟨path, .data value⟩ value
      refine ⟨entries, ?_, fun _ => named, nofun⟩
      exact (congrArg Log.Traced.result (building_of_short short _)).trans found
  | keyed entries =>
      refine ⟨entries, ?_, ?_, FileMapping.named?_eq_none_iff.mpr⟩
      · exact congrArg Log.Traced.result (building_of_short short _)
      · intro named
        cases found : entries.named? with
        | none => exact absurd (FileMapping.named?_eq_none_iff.mp found) named
        | some names =>
            rw [FileContent.mapping, found]
            rfl
  | _ => exact ⟨[], rfl, fun _ => rfl, nofun⟩

end SettingsFile

def contentOf (given : Option SettingsFile) (default : SettingsFile) : FileContent :=
  (given.getD default).content

/-- A default file that is missing reads as no file does. -/
theorem chooseFile_reads (given : Option SettingsFile) (default : SettingsFile) :
    ∃ chosen, (chooseFile given default).result = .ok chosen ∧
      (mappingOfFile chosen.1).result =
        ((given.getD default).read.mapError LoadError.file).result := by
  cases given with
  | some file => exact ⟨(some file, .given), rfl, rfl⟩
  | none =>
      obtain ⟨path, content⟩ := default
      cases content with
      | missing => exact ⟨(none, .none), rfl, rfl⟩
      | _ => exact ⟨(some _, .default), rfl, rfl⟩

/-!
## Settings of a file and an environment
-/

section Building

variable {environment : Environment} {file : Option SettingsFile}

theorem build_of_unread {error : LoadError} (unread : (mappingOfFile file).result = .error error) :
    (build [] environment file).result = .error error := by
  rw [build, Log.Traced.result_bind, unread]
  rfl

variable {entries : FileMapping} (read : (mappingOfFile file).result = .ok entries)

include read

theorem build_of_environment_error {error : EnvironmentError}
    (failed : environment.mapping = .error error) :
    (build [] environment file).result = .error (.environment error) := by
  rw [build, Log.Traced.result_bind, read, failed]
  rfl

theorem build_of_mapping {own : Mapping} (found : environment.mapping = .ok own) :
    (build [] environment file).result =
      (namedEntries entries).bind fun named =>
        (ofMapping (merge own named)).mapError LoadError.invalid := by
  simp only [build, Log.Traced.result_bind, read, found]
  rfl

theorem build_of_unnamed {own : Mapping} (found : environment.mapping = .ok own)
    (unnamed : entries.named? = none) : (build [] environment file).result = .error .unnamed := by
  rw [build_of_mapping read found, namedEntries, unnamed]
  rfl

theorem build_of_named {own named : Mapping} (found : environment.mapping = .ok own)
    (names : entries.named? = some named) :
    (build [] environment file).result =
      (ofMapping (merge own named)).mapError LoadError.invalid := by
  rw [build_of_mapping read found, namedEntries, names]
  rfl

end Building

/-- The settings that an environment gives without a file. -/
theorem build_alone {environment : Environment} {own : Mapping}
    (found : environment.mapping = .ok own) :
    (build [] environment none).result = (ofMapping own).mapError LoadError.invalid := by
  have unmerged : merge own [] = own := merge_nil (Environment.distinct found).names
  rw [build_of_named rfl found rfl, unmerged]

theorem exists_mapping_of_build {environment : Environment} {alone : Settings}
    (buildable : (build [] environment none).result = .ok alone) :
    ∃ own, environment.mapping = .ok own := by
  cases found : environment.mapping with
  | ok own => exact ⟨own, rfl⟩
  | error error =>
      rw [build_of_environment_error rfl found] at buildable
      cases buildable

/-!
## Falling back
-/

theorem exceptMap_eq_error_iff {ε α β : Type} {change : α → β} {result : Except ε α} {error : ε} :
    result.map change = .error error ↔ result = .error error := by
  cases result <;> simp [Except.map]

section FallingBack

variable {environment : Environment} {chosen : Option SettingsFile × Origin}

theorem buildOrFallBack_of_ok {settings : Settings}
    (built : (build [] environment chosen.1).result = .ok settings) :
    (buildOrFallBack environment chosen).result = .ok (settings, chosen.2) := by
  rw [buildOrFallBack, built]

theorem buildOrFallBack_of_invalid {problems : List Problem}
    (invalid : (build [] environment chosen.1).result = .error (.invalid problems)) :
    (buildOrFallBack environment chosen).result.map Prod.fst =
      (build [] environment none).result := by
  obtain ⟨file, origin⟩ := chosen
  cases file with
  | none =>
      simp only [buildOrFallBack, invalid]
      rfl
  | some file =>
      simp only [buildOrFallBack, invalid]
      cases (build [] environment none).result with
      | ok settings => rfl
      | error error => rfl

theorem buildOrFallBack_of_error {error : LoadError}
    (failed : (build [] environment chosen.1).result = .error error)
    (other : ∀ problems, error ≠ .invalid problems) :
    (buildOrFallBack environment chosen).result = .error error := by
  cases error with
  | invalid problems => exact absurd rfl (other problems)
  | environment error => simp only [buildOrFallBack, failed]
  | file error => simp only [buildOrFallBack, failed]
  | unnamed => simp only [buildOrFallBack, failed]

end FallingBack

/-!
## Loads
-/

section Loads

variable {given : Option SettingsFile} {default : SettingsFile} {environment : Environment}

theorem load_of_choice {chosen : Option SettingsFile × Origin}
    (choice : (chooseFile given default).result = .ok chosen) :
    (load given default environment).result = (buildOrFallBack environment chosen).result := by
  rw [load, Log.Traced.result_bind, choice]
  rfl

theorem load_of_stops {error : FileError} (stops : (contentOf given default).Stops error) :
    (load given default environment).result = .error (.file error) := by
  obtain ⟨chosen, choice, reads⟩ := chooseFile_reads given default
  have unread : (mappingOfFile chosen.1).result = .error (.file error) := by
    rw [reads, Log.Traced.mapError, SettingsFile.result_read_of_stops stops]
    rfl
  rw [load_of_choice choice]
  exact buildOrFallBack_of_error (build_of_unread unread) (by simp)

section Read

variable (read : ∀ error, ¬ (contentOf given default).Stops error)

include read

theorem exists_choice :
    ∃ chosen entries, (chooseFile given default).result = .ok chosen ∧
      (mappingOfFile chosen.1).result = .ok entries ∧
      (none ∉ (contentOf given default).keys →
        entries.named? = some (contentOf given default).mapping) ∧
      (none ∈ (contentOf given default).keys → entries.named? = none) := by
  obtain ⟨chosen, choice, reads⟩ := chooseFile_reads given default
  obtain ⟨entries, found, named, unnamed⟩ := SettingsFile.result_read_of_read read
  refine ⟨chosen, entries, choice, ?_, named, unnamed⟩
  rw [reads, Log.Traced.mapError, found]
  rfl

theorem load_of_environment_error {error : EnvironmentError}
    (failed : environment.mapping = .error error) :
    (load given default environment).result = .error (.environment error) := by
  obtain ⟨chosen, entries, choice, reads, -, -⟩ := exists_choice read
  rw [load_of_choice choice]
  exact buildOrFallBack_of_error (build_of_environment_error reads failed) (by simp)

theorem load_of_unnamed {own : Mapping} (found : environment.mapping = .ok own)
    (unnamed : none ∈ (contentOf given default).keys) :
    (load given default environment).result = .error .unnamed := by
  obtain ⟨chosen, entries, choice, reads, -, refused⟩ := exists_choice read
  rw [load_of_choice choice]
  exact buildOrFallBack_of_error (build_of_unnamed reads found (refused unnamed)) (by simp)

end Read

section Loadable

variable (loadable : (contentOf given default).Loadable) {own : Mapping}
  (found : environment.mapping = .ok own)

include loadable found

theorem exists_choice_build :
    ∃ chosen, (chooseFile given default).result = .ok chosen ∧
      (build [] environment chosen.1).result =
        (ofMapping (merge own (contentOf given default).mapping)).mapError LoadError.invalid := by
  obtain ⟨chosen, entries, choice, reads, named, -⟩ := exists_choice loadable.read
  exact ⟨chosen, choice, build_of_named reads found (named loadable.named)⟩

theorem load_of_valid {settings : Settings}
    (valid : ofMapping (merge own (contentOf given default).mapping) = .ok settings) :
    ∃ origin, (load given default environment).result = .ok (settings, origin) := by
  obtain ⟨chosen, choice, built⟩ := exists_choice_build loadable found
  rw [valid] at built
  exact ⟨chosen.2, (load_of_choice choice).trans (buildOrFallBack_of_ok built)⟩

theorem load_of_invalid {problems : List Problem}
    (invalid : ofMapping (merge own (contentOf given default).mapping) = .error problems) :
    (load given default environment).result.map Prod.fst =
      (ofMapping own).mapError LoadError.invalid := by
  obtain ⟨chosen, choice, built⟩ := exists_choice_build loadable found
  rw [invalid] at built
  rw [load_of_choice choice, buildOrFallBack_of_invalid built, build_alone found]

end Loadable

end Loads

theorem load_eq_error_iff {given : Option SettingsFile} {default : SettingsFile}
    {environment : Environment} (loadable : (contentOf given default).Loadable)
    {error : LoadError} :
    (load given default environment).result = .error error ↔
      (build [] environment none).result = .error error := by
  cases found : environment.mapping with
  | error failure =>
      rw [load_of_environment_error loadable.read found, build_of_environment_error rfl found]
      simp
  | ok own =>
      rw [build_alone found]
      cases checked : ofMapping (merge own (contentOf given default).mapping) with
      | ok settings =>
          -- Neither side fails, since a file repairs no environment.
          obtain ⟨origin, loaded⟩ := load_of_valid loadable found checked
          obtain ⟨alone, valid⟩ := ofMapping_of_merge (Environment.distinct found) checked
          rw [loaded, valid]
          exact ⟨nofun, nofun⟩
      | error problems =>
          rw [← load_of_invalid loadable found checked, exceptMap_eq_error_iff]

/-- A load with a loadable content takes each of its settings from the environment, else from the file,
else from the defaults, if all of them together are valid; if not, the file does not count at all. It
fails as the environment alone fails. Another content fails on its own: with the error of its reader,
or, unless the environment fails, for a key that is no text. -/
theorem load_layered (given : Option SettingsFile) (default : SettingsFile)
    (environment : Environment) :
    let content := contentOf given default
    let result := (load given default environment).result
    (content.Loadable →
      (∀ own, environment.mapping = .ok own →
        (∀ settings, ofMapping (merge own content.mapping) = .ok settings →
          (∃ origin, result = .ok (settings, origin)) ∧ Layered own content.mapping settings) ∧
        ∀ problems, ofMapping (merge own content.mapping) = .error problems →
          result.map Prod.fst = (ofMapping own).mapError .invalid) ∧
      ∀ error, result = .error error ↔ (build [] environment none).result = .error error) ∧
    (∀ error, content.Stops error → result = .error (.file error)) ∧
    ((∀ error, ¬ content.Stops error) → none ∈ content.keys →
      (∀ error, environment.mapping = .error error → result = .error (.environment error)) ∧
      ∀ own, environment.mapping = .ok own → result = .error .unnamed) := by
  intro content result
  refine ⟨?_, fun error => load_of_stops, ?_⟩
  · intro loadable
    constructor
    · intro own found
      constructor
      · intro settings valid
        exact ⟨load_of_valid loadable found valid,
          layered_of_merge (Environment.distinct found) valid⟩
      · intro problems invalid
        exact load_of_invalid loadable found invalid
    · intro error
      exact load_eq_error_iff loadable
  · intro read unnamed
    constructor
    · intro error failed
      exact load_of_environment_error read failed
    · intro own found
      exact load_of_unnamed read found unnamed

/-- The environment repairs the level of one file, and a second one, whose masking is valid, does not
count. A key that is a number and a byte that starts no character stop the load. -/
theorem load_layered_repaired_and_refused :
    let environment : Environment :=
      [("QUICKCONNECT_LOG_LEVEL".toList, "ERROR".toList),
        ("QUICKCONNECT_PARAMETERS__DENIED".toList, "[\"pw\"]".toList)]
    let repaired : SettingsFile := ⟨[], .data (.mapping
      [(levelField, .integer 5), (maskField, .boolean false),
        (policyField, .mapping [(allowedField, .list [.text "host".toList])])])⟩
    let refused : SettingsFile := ⟨[], .data (.mapping
      [(maskField, .boolean false), (policyField, .mapping [(allowedField, .null)])])⟩
    let numbered : SettingsFile := ⟨[], .keyed [(none, .integer 2)]⟩
    let marked : SettingsFile := ⟨[], .notUtf8 ⟨11, 0xFF, [], .invalidStart⟩⟩
    repaired.content.Loadable ∧ refused.content.Loadable ∧
      (∃ origin, (load (some repaired) refused environment).result =
        .ok (⟨"ERROR".toList, false, .ofNames ["host".toList] ["pw".toList]⟩, origin)) ∧
      (load none refused environment).result.map Prod.fst =
        .ok ⟨"ERROR".toList, true, .ofNames [] ["pw".toList]⟩ ∧
      (load (some numbered) refused environment).result = .error .unnamed ∧
      (load (some marked) refused environment).result =
        .error (.file (.undecodable ⟨11, 0xFF, [], .invalidStart⟩)) := by
  intro environment repaired refused numbered marked
  have found : environment.mapping = .ok [(levelField, .text "ERROR".toList),
      (policyField, .mapping [(deniedField, .list [.text "pw".toList])])] := by rfl
  have loadable : repaired.content.Loadable :=
    FileContent.loadable_data_iff.mpr (Value.longInteger?_eq_none_iff.mp (by decide))
  have loadableToo : refused.content.Loadable :=
    FileContent.loadable_data_iff.mpr (Value.longInteger?_eq_none_iff.mp (by decide))
  refine ⟨loadable, loadableToo, ?_, ?_, ?_, ?_⟩
  · exact ((((load_layered (some repaired) refused environment).1 loadable).1 _ found).1 _ rfl).1
  · exact (((load_layered none refused environment).1 loadableToo).1 _ found).2 _ rfl
  · refine ((load_layered (some numbered) refused environment).2.2 ?_ ?_).2 _ found
    · intro error stops
      cases stops with
      | long none => cases none
    · exact List.mem_cons_self
  · exact (load_layered (some marked) refused environment).2.1 _ .undecodable

/-- A file stops a load that succeeds without it if, and only if, it stops its reader or has a key that
is no text. -/
theorem load_succeeds_iff_loadable (given : Option SettingsFile) (default : SettingsFile)
    {environment : Environment} {alone : Settings}
    (buildable : (build [] environment none).result = .ok alone) :
    let content := contentOf given default
    let result := (load given default environment).result
    ((∃ loaded, result = .ok loaded) ↔ content.Loadable) ∧
      (∀ error, content.Stops error → result = .error (.file error)) ∧
      ((∀ error, ¬ content.Stops error) → none ∈ content.keys → result = .error .unnamed) := by
  intro content result
  obtain ⟨own, found⟩ := exists_mapping_of_build buildable
  have unnamed : (∀ error, ¬ content.Stops error) → none ∈ content.keys →
      result = .error .unnamed := fun read => load_of_unnamed read found
  refine ⟨?_, fun error => load_of_stops, unnamed⟩
  constructor
  · intro ⟨loaded, succeeded⟩
    have read : ∀ error, ¬ content.Stops error := by
      intro error stops
      have stopped : result = .error (.file error) := load_of_stops stops
      rw [stopped] at succeeded
      cases succeeded
    refine ⟨read, ?_⟩
    intro member
    rw [unnamed read member] at succeeded
    cases succeeded
  · intro loadable
    cases ended : result with
    | ok loaded => exact ⟨loaded, rfl⟩
    | error error =>
        rw [load_eq_error_iff loadable, buildable] at ended
        cases ended

/-- Four files stop a load: one with a byte that starts no character, one with a day that is in no
calendar, one with a number as a key, and one with an integer of too many digits. A directory stops
none. -/
theorem load_fails_of_marked_file :
    let marked : SettingsFile := ⟨"settings.yaml".toList, .notUtf8 ⟨11, 0xFF, [], .invalidStart⟩⟩
    let dated : SettingsFile := ⟨"settings.yaml".toList,
      .foreign ⟨"ValueError".toList, "month must be in 1..12".toList⟩⟩
    let numbered : SettingsFile := ⟨"settings.yaml".toList, .keyed [(none, .integer 2)]⟩
    let long : SettingsFile := ⟨"settings.yaml".toList,
      .data (.mapping [(levelField, .integer (Int.ofNat (Nat.pow 10 Text.digitLimit)))])⟩
    (build [] [] none).result = .ok Settings.default ∧
      (load (some marked) marked []).result =
        .error (.file (.undecodable ⟨11, 0xFF, [], .invalidStart⟩)) ∧
      ¬ (∃ loaded, (load none dated []).result = .ok loaded) ∧
      (load (some numbered) marked []).result = .error .unnamed ∧
      ¬ (∃ loaded, (load none long []).result = .ok loaded) ∧
      ∃ loaded, (load none ⟨[], .directory⟩ []).result = .ok loaded := by
  intro marked dated numbered long
  have buildable : (build [] [] none).result = .ok Settings.default := by rfl
  refine ⟨buildable, ?_, ?_, ?_, ?_, ?_⟩
  · exact (load_succeeds_iff_loadable (some marked) marked buildable).2.1 _ .undecodable
  · intro loads
    exact ((load_succeeds_iff_loadable none dated buildable).1.mp loads).read _ .foreign
  · refine (load_succeeds_iff_loadable (some numbered) marked buildable).2.2 ?_ List.mem_cons_self
    intro error stops
    cases stops with
    | long none => cases none
  · intro loads
    have loadable := (load_succeeds_iff_loadable none long buildable).1.mp loads
    obtain ⟨integer, held⟩ := Value.exists_holdsLong_of_le (Nat.le_refl (Nat.pow 10 Text.digitLimit))
    exact FileContent.loadable_data_iff.mp loadable _ (.entry List.mem_cons_self held)
  · refine (load_succeeds_iff_loadable none ⟨[], .directory⟩ buildable).1.mpr ⟨?_, ?_⟩
    · intro error stops
      cases stops with
      | long none => cases none
    · exact List.not_mem_nil

end ConnectionUri.Settings
