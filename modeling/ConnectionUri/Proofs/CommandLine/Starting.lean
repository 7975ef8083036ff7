import ConnectionUri.Proofs.CommandLine.Ending
import ConnectionUri.Proofs.Log.Levels
import ConnectionUri.Proofs.Settings.Loading

/-!
# How a run comes to its command

Loading settings leaves records that can be formatted, so between the settings and the command there is
the set-up of the log alone. It needs the name of a level, and nothing before it does: any text is
accepted as the level of loaded settings.
-/

set_option autoImplicit false

/-!
## The records of a load
-/

namespace ConnectionUri.Settings

open Log

theorem SettingsFile.formats_mappingOf (file : SettingsFile) (value : Value) :
    (file.mappingOf value).Formats := by
  intro record member
  cases value with
  | mapping entries => cases member
  | _ =>
      simp only [mappingOf] at member
      split at member
      · cases member
      · cases List.mem_singleton.mp member
        exact ⟨_, rfl⟩

theorem SettingsFile.formats_building (value : Value) {mapping : Traced FileError FileMapping}
    (formats : mapping.Formats) : (building value mapping).Formats := by
  unfold building
  split
  · exact .of_nil rfl
  · exact formats

theorem SettingsFile.formats_read (file : SettingsFile) : file.read.Formats := by
  obtain ⟨path, content⟩ := file
  cases content with
  | missing => exact .of_nil rfl
  | empty => exact .of_nil rfl
  | notUtf8 fault => exact .of_nil rfl
  | foreign error => exact .of_nil rfl
  | data value => exact formats_building value (formats_mappingOf ⟨path, .data value⟩ value)
  | keyed entries => exact formats_building _ (.of_nil rfl)
  | directory =>
      intro record member
      cases List.mem_singleton.mp member
      exact ⟨_, rfl⟩
  | malformed reason =>
      intro record member
      cases List.mem_singleton.mp member
      exact ⟨_, rfl⟩
  | unreadable reason =>
      intro record member
      cases List.mem_singleton.mp member
      exact ⟨_, rfl⟩

theorem formats_build (initial : Mapping) (environment : Environment)
    (file : Option SettingsFile) : (build initial environment file).Formats := by
  refine .bind ?_ fun fromFile => .bind (.of_nil rfl) fun fromEnvironment =>
    .bind (.of_nil rfl) fun named => .of_nil rfl
  cases file with
  | none => exact .of_nil rfl
  | some file => exact file.formats_read.mapError _

theorem formats_buildOrFallBack (environment : Environment) (chosen : Option SettingsFile × Origin) :
    (buildOrFallBack environment chosen).Formats := by
  have first := formats_build [] environment chosen.1
  have second := formats_build [] environment none
  unfold buildOrFallBack
  simp only []
  split
  · exact first
  · intro record member
    rcases List.mem_append.mp member with member | member
    · exact first record member
    · rcases List.mem_cons.mp member with rfl | member
      · exact ⟨_, rfl⟩
      · exact second record member
  · exact first

theorem formats_load (given : Option SettingsFile) (default : SettingsFile)
    (environment : Environment) : (load given default environment).Formats := by
  refine .bind ?_ fun chosen => formats_buildOrFallBack environment chosen
  unfold chooseFile
  split
  · exact .of_nil rfl
  · split
    · exact .of_nil rfl
    · intro record member
      cases List.mem_singleton.mp member
      exact ⟨_, rfl⟩

end ConnectionUri.Settings

/-!
## Levels of loaded settings
-/

namespace ConnectionUri.Settings

variable {given : Option SettingsFile} {default : SettingsFile} {environment : Environment}
  {settings : Settings} {origin : Origin}

section Texts

variable {path : List Step} {fallback text : Text} {stronger weaker : Option Value}

theorem Chosen.isText (chosen : Chosen (checkText path) fallback stronger weaker text) :
    text = fallback ∨ stronger = some (.text text) ∨ weaker = some (.text text) := by
  cases chosen with
  | stronger checked => exact .inr (.inl (congrArg some (checkText_eq_ok_iff.mp checked)))
  | weaker checked => exact .inr (.inr (congrArg some (checkText_eq_ok_iff.mp checked)))
  | default => exact .inl rfl

end Texts

theorem read_of_load (loaded : (load given default environment).result = .ok (settings, origin)) :
    ∀ error, ¬ (contentOf given default).Stops error := by
  intro error stops
  rw [load_of_stops stops] at loaded
  cases loaded

theorem exists_mapping_of_load
    (loaded : (load given default environment).result = .ok (settings, origin)) :
    ∃ own, environment.mapping = .ok own := by
  cases found : environment.mapping with
  | ok own => exact ⟨own, rfl⟩
  | error error =>
      rw [load_of_environment_error (read_of_load loaded) found] at loaded
      cases loaded

theorem loadable_of_load
    (loaded : (load given default environment).result = .ok (settings, origin)) :
    (contentOf given default).Loadable := by
  refine ⟨read_of_load loaded, ?_⟩
  intro unnamed
  obtain ⟨own, found⟩ := exists_mapping_of_load loaded
  rw [load_of_unnamed (read_of_load loaded) found unnamed] at loaded
  cases loaded

/-- The settings of a load are those of the environment and the file, or of the environment alone. -/
theorem load_cases (loaded : (load given default environment).result = .ok (settings, origin))
    {own : Mapping} (found : environment.mapping = .ok own) :
    Layered own (contentOf given default).mapping settings ∨ ofMapping own = .ok settings := by
  have loadable := loadable_of_load loaded
  cases checked : ofMapping (merge own (contentOf given default).mapping) with
  | ok merged =>
      obtain ⟨from?, valid⟩ := load_of_valid loadable found checked
      rw [loaded] at valid
      obtain rfl : settings = merged := (Prod.mk.inj (Except.ok.inj valid)).1
      exact .inl (layered_of_merge (Environment.distinct found) checked)
  | error problems =>
      have fallen := load_of_invalid loadable found checked
      rw [loaded] at fallen
      cases alone : ofMapping own with
      | ok settings' =>
          rw [alone] at fallen
          exact .inr (congrArg Except.ok (Except.ok.inj fallen).symm)
      | error problems =>
          rw [alone] at fallen
          cases fallen

/-- The level of loaded settings is the default one, or the text that a source gives. -/
theorem level_of_load (loaded : (load given default environment).result = .ok (settings, origin))
    {own : Mapping} (found : environment.mapping = .ok own) :
    settings.logLevel = Settings.default.logLevel ∨
      Mapping.get? levelField own = some (.text settings.logLevel) ∨
      Mapping.get? levelField (contentOf given default).mapping = some (.text settings.logLevel) := by
  rcases load_cases loaded found with layered | alone
  · exact layered.logLevel.isText
  · have settles := (ofMapping_eq_ok_iff.mp alone).1
    rcases settles.fromWeaker.isText with default | none | own
    · exact .inl default
    · cases none
    · exact .inr (.inl own)

/-- A settings file that gives a level and nothing else. -/
def levelFile (path level : Text) : SettingsFile :=
  ⟨path, .data (.mapping [(levelField, .text level)])⟩

/-- Any text can be the level of loaded settings. -/
theorem load_levelFile (path level : Text) (default : SettingsFile) :
    (load (some (levelFile path level)) default []).result =
      .ok (⟨level, Settings.default.masksSensitiveData, Settings.default.policy⟩, .given) := rfl

end ConnectionUri.Settings

/-!
## From the settings to the command
-/

namespace ConnectionUri.Log.Journal

variable {journal : Journal} {levelName : Text} {masks : Bool}

theorem setup_stream_of_named (named : NamesLevel levelName) :
    ∃ after, journal.setup levelName masks none = (.ok (), after) := by
  obtain ⟨root, done⟩ : ∃ root, journal.root.setup levelName masks none = (.ok (), root) :=
    Root.exists_setup_stream_iff.mpr named
  refine ⟨_, Prod.ext ?_ rfl⟩
  rw [(journal.setup_eq levelName masks none).1, done]

theorem setup_stream_of_unnamed (unnamed : ¬ NamesLevel levelName) :
    ∃ error after, journal.setup levelName masks none = (.error error, after) := by
  obtain ⟨error, failed⟩ : ∃ error, journal.root.setup levelName masks none =
      (.error error, journal.root) := Root.exists_setup_stream_error_iff.mpr unnamed
  refine ⟨error, _, Prod.ext ?_ rfl⟩
  rw [(journal.setup_eq levelName masks none).1, failed]

end ConnectionUri.Log.Journal

namespace ConnectionUri.CommandLine

open Log Settings

section Start

variable {surroundings : Surroundings} {file : Option SettingsFile} {settings : Settings}
  {origin : Origin}
  (loaded : (load file surroundings.defaultFile surroundings.environment).result =
    .ok (settings, origin))
  {level : Option Text} {command : CommandName} {arguments : List Text}

include loaded

/-- After a load there is a journal with which the set-up of the log decides how to go on. -/
theorem start_of_loaded :
    ∃ journal : Journal, start surroundings file level command arguments =
      match journal.setup (chosenLevel level settings) settings.masksSensitiveData none with
      | (.error error, journal) => ⟨.fatal (.setup error), journal⟩
      | (.ok (), journal) =>
        runNamed surroundings.stamp settings.policy command arguments journal := by
  have logged := Journal.logAll_of_formats
    (formats_load file surroundings.defaultFile surroundings.environment) surroundings.stamp .empty
  unfold start
  simp only []
  split
  · next error journal written =>
    rw [written] at logged
    cases logged
  · next journal written =>
    rw [loaded]
    exact ⟨journal, rfl⟩

theorem start_of_named (named : NamesLevel (chosenLevel level settings)) :
    ∃ journal, start surroundings file level command arguments =
      runNamed surroundings.stamp settings.policy command arguments journal := by
  obtain ⟨journal, started⟩ := start_of_loaded loaded
  obtain ⟨after, done⟩ : ∃ after, journal.setup (chosenLevel level settings)
      settings.masksSensitiveData none = (.ok (), after) := Journal.setup_stream_of_named named
  rw [done] at started
  exact ⟨after, started⟩

theorem start_of_unnamed (unnamed : ¬ NamesLevel (chosenLevel level settings)) :
    ∃ error, (start surroundings file level command arguments).ending = .fatal (.setup error) := by
  obtain ⟨journal, started⟩ := start_of_loaded loaded
  obtain ⟨error, after, failed⟩ : ∃ error after, journal.setup (chosenLevel level settings)
      settings.masksSensitiveData none = (.error error, after) :=
    Journal.setup_stream_of_unnamed unnamed
  rw [failed] at started
  exact ⟨error, congrArg Result.ending started⟩

end Start

end ConnectionUri.CommandLine

/-!
## Usable settings
-/

namespace ConnectionUri.CommandLine

open Log Settings

/-- The log can be set up with the settings, whatever was done to it before. -/
def Usable (settings : Settings) : Prop :=
  ∀ root : Root, ∃ after,
    root.setup settings.logLevel settings.masksSensitiveData none = (.ok (), after)

theorem usable_iff {settings : Settings} : Usable settings ↔ NamesLevel settings.logLevel := by
  constructor
  · intro usable
    exact Root.exists_setup_stream_iff.mp (usable .bare)
  · intro named root
    exact Root.exists_setup_stream_iff.mpr named

theorem usable_of_default_level {settings : Settings}
    (level : settings.logLevel = Settings.default.logLevel) : Usable settings := by
  have named : NamesLevel Settings.default.logLevel := by decide
  exact usable_iff.mpr (level ▸ named)

/-- Loaded settings are usable if, and only if, their level is the name of one in any case. If they are
not, the text is the one that the environment or the file gives as the level, every set-up with it
fails, and so does every command before it is looked at. -/
theorem loaded_usable_iff {given : Option SettingsFile} {default : SettingsFile}
    {environment : Environment} {settings : Settings} {origin : Origin}
    (loaded : (load given default environment).result = .ok (settings, origin)) :
    (Usable settings ↔ NamesLevel settings.logLevel) ∧
      (¬ Usable settings → ∀ root : Root, ∃ error,
        root.setup settings.logLevel settings.masksSensitiveData none = (.error error, root)) ∧
      (¬ Usable settings → ∃ own, environment.mapping = .ok own ∧
        (Mapping.get? levelField own = some (.text settings.logLevel) ∨
          Mapping.get? levelField (contentOf given default).mapping =
            some (.text settings.logLevel))) ∧
      ∀ surroundings : Surroundings, surroundings.defaultFile = default →
        surroundings.environment = environment → ∀ command arguments,
        (Usable settings → ∃ journal, start surroundings given none command arguments =
          runNamed surroundings.stamp settings.policy command arguments journal) ∧
        (¬ Usable settings → ∃ error,
          (start surroundings given none command arguments).ending = .fatal (.setup error)) := by
  refine ⟨usable_iff, ?_, ?_, ?_⟩
  · intro unusable root
    exact Root.exists_setup_stream_error_iff.mpr (mt usable_iff.mpr unusable)
  · intro unusable
    obtain ⟨own, found⟩ := exists_mapping_of_load loaded
    refine ⟨own, found, ?_⟩
    rcases level_of_load loaded found with fromDefault | fromSource
    · exact absurd (usable_of_default_level fromDefault) unusable
    · exact fromSource
  · intro surroundings sameFile sameEnvironment command arguments
    subst sameFile sameEnvironment
    have chosen : settings.logLevel = chosenLevel none settings := rfl
    rw [usable_iff, chosen]
    exact ⟨start_of_named loaded, start_of_unnamed loaded⟩

/-- A file with a text that names no level is loaded, and the program ends on it. -/
theorem loaded_unusable_verbose :
    let file := levelFile "settings.yaml".toList "VERBOSE".toList
    let surroundings : Surroundings :=
      ⟨fun _ => file, ⟨"quickconnect.yaml".toList, .missing⟩, [], "TIME".toList⟩
    ∃ settings, (load (some file) surroundings.defaultFile surroundings.environment).result =
        .ok (settings, .given) ∧
      settings.logLevel = "VERBOSE".toList ∧ ¬ Usable settings ∧
      ∃ error,
        (start surroundings (some file) none .name ["ssh://host/".toList]).ending =
          .fatal (.setup error) := by
  intro file surroundings
  have loaded := load_levelFile "settings.yaml".toList "VERBOSE".toList surroundings.defaultFile
  obtain ⟨usable, -, -, commands⟩ := loaded_usable_iff loaded
  have unusable := mt usable.mp (by decide)
  exact ⟨_, loaded, rfl, unusable,
    (commands surroundings rfl rfl .name ["ssh://host/".toList]).2 unusable⟩

end ConnectionUri.CommandLine
