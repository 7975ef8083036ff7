import ConnectionUri.Proofs.CommandLine.Starting
import ConnectionUri.Proofs.Connection.Precedence
import ConnectionUri.Proofs.Json.RoundTrip
import ConnectionUri.Proofs.ParameterMap

/-!
# Printed configurations

What a parse prints as JSON is read back as the configuration of its URI, with stars in the place of a
password that is not to be shown, and a parse that finds a fault prints no JSON at all:
`parse_prints_configuration`. The options may come in any order and number.
-/

set_option autoImplicit false

namespace ConnectionUri.CommandLine

open Log Settings

/-!
## Options
-/

theorem Sorted.has_eq_false_iff {sorted : Sorted} {name : OptionName} :
    sorted.has name = false ↔ name ∉ sorted.options.map Prod.fst := by
  rw [has, Option.isSome_eq_false_iff, Option.isNone_iff_eq_none, value?, List.lookup_eq_none_iff]
  simp only [List.mem_reverse, List.mem_map, bne_iff_ne, not_exists, not_and, ne_comm, ne_eq]

namespace OptionName

theorem spelling_injective {name other : OptionName} (same : name.spelling = other.spelling) :
    name = other := by
  revert same
  cases name <;> cases other <;> decide

theorem spelling_ne_mark (name : OptionName) : name.spelling ≠ "--".toList := by
  cases name <;> decide

theorem looksLikeOption_spelling (name : OptionName) : looksLikeOption name.spelling = true := by
  cases name <;> rfl

theorem cut_spelling (name : OptionName) : Text.cut '=' name.spelling = (name.spelling, none) := by
  apply Text.cut_of_not_mem
  cases name <;> decide

theorem mem_programOptions {name : OptionName} (takes : name.takesValue = true) :
    name ∈ programOptions := by
  revert takes
  cases name <;> decide

end OptionName

theorem optionNamed?_spelling {known : List OptionName} {name : OptionName} (member : name ∈ known) :
    optionNamed? known name.spelling = some name := by
  cases found : optionNamed? known name.spelling with
  | none => simpa using List.find?_eq_none.mp found name member
  | some other =>
      have same := List.find?_some found
      rw [OptionName.spelling_injective (beq_iff_eq.mp same)]

section Sorting

variable {known : List OptionName} {name : OptionName} {mayFollow : Bool}

theorem sortArguments_value (member : name ∈ known) (takes : name.takesValue = true)
    (value : Text) (rest : List Text) :
    sortArguments known mayFollow (name.spelling :: value :: rest) =
      (sortArguments known mayFollow rest).map (·.withOption name value) := by
  simp only [sortArguments, name.spelling_ne_mark, name.looksLikeOption_spelling, name.cut_spelling,
    optionNamed?_spelling member, takes, if_false, if_true]

theorem sortArguments_flag (member : name ∈ known) (isFlag : name.takesValue = false)
    (rest : List Text) :
    sortArguments known mayFollow (name.spelling :: rest) =
      (sortArguments known mayFollow rest).map (·.withOption name []) := by
  rw [sortArguments.eq_def]
  simp only [name.spelling_ne_mark, name.looksLikeOption_spelling, name.cut_spelling,
    optionNamed?_spelling member, isFlag, if_false, if_true, Bool.false_eq_true, Option.isSome_none]

theorem sortArguments_word {word : Text} (plain : looksLikeOption word = false) (rest : List Text) :
    sortArguments known false (word :: rest) = .ok ⟨[], word :: rest⟩ := by
  have noMark : word ≠ "--".toList := by
    rintro rfl
    cases plain
  simp only [sortArguments, noMark, plain, if_false, Bool.false_eq_true]

end Sorting

/-- The options of the program as they are given, each before its value. -/
def spelled (options : List (OptionName × Text)) : List Text :=
  options.flatMap fun option => [option.1.spelling, option.2]

theorem sortArguments_spelled {options : List (OptionName × Text)}
    (valued : ∀ option ∈ options, option.1.takesValue = true) {word : Text}
    (plain : looksLikeOption word = false) (rest : List Text) :
    sortArguments programOptions false (spelled options ++ word :: rest) =
      .ok ⟨options, word :: rest⟩ := by
  induction options with
  | nil => exact sortArguments_word plain rest
  | cons option others ih =>
      obtain ⟨name, value⟩ := option
      obtain ⟨takes, later⟩ := List.forall_mem_cons.mp valued
      have sorted : sortArguments programOptions false
          (name.spelling :: value :: (spelled others ++ word :: rest)) = _ :=
        sortArguments_value (OptionName.mem_programOptions takes) takes value _
      rw [ih later] at sorted
      exact sorted

theorem ending?_of_valued {options : List (OptionName × Text)}
    (valued : ∀ option ∈ options, option.1.takesValue = true) (rest : List Text) :
    (Sorted.mk options rest).ending? = none := by
  rw [Sorted.ending?, List.find?_eq_none]
  intro name member ends
  obtain ⟨option, given, rfl⟩ := List.mem_map.mp member
  have takes := valued option given
  cases named : option.1 <;> simp [named, OptionName.takesValue] at takes ends

/-- A command after options of the program is started with the last values of these. -/
theorem run_spelled {surroundings : Surroundings} {options : List (OptionName × Text)}
    {file : Option SettingsFile} (valued : ∀ option ∈ options, option.1.takesValue = true)
    (opened : fileOption surroundings (options.reverse.lookup .config) = .ok file)
    (arguments : List Text) :
    run surroundings (spelled options ++ "parse".toList :: arguments) =
      start surroundings file (options.reverse.lookup .logLevel) .parse arguments := by
  have word : looksLikeOption "parse".toList = false := rfl
  have named : CommandName.ofText? "parse".toList = some .parse := rfl
  simp only [run, sortArguments_spelled valued word, ending?_of_valued valued, Sorted.value?, opened,
    named]

/-!
## Arguments of a parse
-/

/-- The flags of a parse that its output depends on. -/
def flags : List OptionName := [.json, .showPassword]

theorem flags_known : ∀ flag ∈ flags,
    flag ∈ CommandName.parse.options ∧ flag.takesValue = false := by
  simp only [flags, List.forall_mem_cons]
  decide

/-- Arguments of a parse that asks for JSON: a URI and flags in any order, flags possibly repeated. -/
structure AsksForJson (arguments : List Text) (uri : Text) (shows : Bool) : Prop where
  known : ∀ argument ∈ arguments, argument = uri ∨ ∃ flag ∈ flags, argument = flag.spelling
  once : arguments.count uri = 1
  json : OptionName.json.spelling ∈ arguments
  shows : OptionName.showPassword.spelling ∈ arguments ↔ shows = true

section Arguments

variable {uri : Text} {arguments : List Text} {shows : Bool}

theorem looksLikeOption_of_head? (plain : uri.head? ≠ some '-') : looksLikeOption uri = false := by
  cases uri with
  | nil => rfl
  | cons first rest => exact looksLikeOption_cons (fun same => plain (congrArg some same)) rest

theorem spelling_ne (plain : looksLikeOption uri = false) (name : OptionName) :
    name.spelling ≠ uri := by
  rintro rfl
  rw [name.looksLikeOption_spelling] at plain
  cases plain

theorem sortArguments_flags (plain : looksLikeOption uri = false)
    (known : ∀ argument ∈ arguments, argument = uri ∨ ∃ flag ∈ flags, argument = flag.spelling) :
    ∃ sorted, sortArguments CommandName.parse.options true arguments = .ok sorted ∧
      sorted.rest = List.replicate (arguments.count uri) uri ∧
      ∀ name, name ∈ sorted.options.map Prod.fst ↔ name ∈ flags ∧ name.spelling ∈ arguments := by
  induction arguments with
  | nil => exact ⟨_, rfl, rfl, by simp⟩
  | cons argument others ih =>
      obtain ⟨first, later⟩ := List.forall_mem_cons.mp known
      obtain ⟨sorted, made, rest, options⟩ := ih later
      rcases first with rfl | ⟨flag, isFlag, rfl⟩
      · refine ⟨sorted.withArgument argument, ?_, ?_, fun name => ?_⟩
        · rw [sortArguments_cons plain, made]
          rfl
        · rw [List.count_cons_self, List.replicate_succ, ← rest]
          rfl
        · rw [List.mem_cons, or_iff_right (spelling_ne plain name), ← options name]
          rfl
      · obtain ⟨member, takesNone⟩ := flags_known flag isFlag
        refine ⟨sorted.withOption flag [], ?_, ?_, fun name => ?_⟩
        · rw [sortArguments_flag member takesNone, made]
          rfl
        · rw [List.count_cons_of_ne (spelling_ne plain flag), ← rest]
          rfl
        · rw [Sorted.withOption, List.map_cons, List.mem_cons, List.mem_cons, options name]
          constructor
          · intro added
            rcases added with rfl | ⟨known, given⟩
            · exact ⟨isFlag, .inl rfl⟩
            · exact ⟨known, .inr given⟩
          · intro ⟨known, given⟩
            rcases given with same | given
            · exact .inl (OptionName.spelling_injective same)
            · exact .inr ⟨known, given⟩

theorem asksForJson_pair (plain : looksLikeOption uri = false) :
    AsksForJson [OptionName.json.spelling, uri] uri false where
  known := by simp [flags]
  once := by simp [spelling_ne plain]
  json := List.mem_cons_self
  shows := by
    have apart : OptionName.showPassword.spelling ≠ OptionName.json.spelling := by decide
    simp [apart, spelling_ne plain]

theorem AsksForJson.runNamed_eq (asks : AsksForJson arguments uri shows)
    (plain : looksLikeOption uri = false) (stamp : Text) (policy : ParameterPolicy)
    (journal : Journal) :
    runNamed stamp policy .parse arguments journal =
      runCommand stamp policy (.parse uri true shows) journal := by
  obtain ⟨sorted, made, rest, options⟩ := sortArguments_flags plain asks.known
  have noHelp : sorted.has .help = false := by
    rw [Sorted.has_eq_false_iff, options]
    simp [flags]
  have json : sorted.has .json = true := by
    rw [← Bool.not_eq_false, Sorted.has_eq_false_iff, options]
    simp [flags, asks.json]
  have password : sorted.has .showPassword = shows := by
    rw [Bool.eq_iff_iff, ← Bool.not_eq_false, Sorted.has_eq_false_iff, options]
    simp [flags, asks.shows]
  have single : sorted.rest = [uri] := by
    rw [rest, asks.once]
    rfl
  simp only [runNamed, CommandName.options] at made ⊢
  simp [made, noHelp, commandOf, single, json, password]

end Arguments

/-!
## Outputs
-/

theorem textual_configurationValue (configuration : Configuration Text) (displayName : Text) :
    Json.Textual Json.depthLimit (configurationValue configuration displayName) := by
  have names : ["protocol".toList, "parameters".toList, "name".toList].Nodup := by decide
  have parameters : Json.Textual 983 (.mapping (configuration.parameters.entries.map
      fun entry => (entry.1, .text entry.2))) := by
    refine @Json.Textual.mapping 982 _ ?_ ?_
    · simpa [Function.comp_def] using configuration.parameters.nodup
    · intro entry member
      obtain ⟨pair, -, rfl⟩ := List.mem_map.mp member
      exact .text pair.2
  refine @Json.Textual.mapping 983 _ names ?_
  simp only [List.forall_mem_cons]
  exact ⟨.text _, parameters, .text _, nofun⟩

theorem read_jsonOutput (configuration : Configuration Text) (displayName : Text) :
    Json.read (jsonOutput configuration displayName) =
      .ok (configurationValue configuration displayName) := by
  have output : jsonOutput configuration displayName =
      Json.indented 0 (configurationValue configuration displayName) ++ ['\n'] := by
    simp [jsonOutput, outputOf]
  rw [output, Json.read_indented (textual_configurationValue configuration displayName) 0 rfl]

theorem read_faultLabel (fault : Fault) (message : Text) :
    Json.read (outputOf [faultLabel fault ++ message]) = .error .malformed := by
  cases fault with
  | client => exact Json.read_of_not_word rfl
  | internal => exact Json.read_of_not_word rfl

/-- An output holds a configuration, with stars for a password that is not to be shown. -/
structure Prints (found : Configuration Text) (shows : Bool) (output : Text)
    (entries : List (Text × Text)) : Prop where
  object : Json.read output = .ok (.mapping [("protocol".toList, .text found.protocol),
    ("parameters".toList, .mapping (entries.map fun entry => (entry.1, .text entry.2))),
    ("name".toList, .text found.displayName)])
  names : entries.map Prod.fst = found.parameters.names
  values : ∀ name, entries.lookup name =
    if name = passwordName ∧ shows = false then (found.get? name).map fun _ => "********".toList
    else found.get? name

theorem exists_prints (found : Configuration Text) (uri : Text) (shows : Bool) :
    ∃ entries, Prints found shows (commandOutput (.parse uri true shows) found) entries := by
  cases shows with
  | true =>
      refine ⟨found.parameters.entries, read_jsonOutput found found.displayName, rfl, fun name => ?_⟩
      simp [Configuration.get?, ParameterMap.get?]
  | false =>
      refine ⟨found.hidePassword.parameters.entries,
        read_jsonOutput found.hidePassword found.displayName,
        ParameterMap.names_replace _ _ _, fun name => ?_⟩
      have value := ParameterMap.get?_replace found.parameters passwordName "********".toList name
      by_cases same : name = passwordName
      · subst same
        simpa [Configuration.get?, Configuration.hidePassword, ParameterMap.get?] using value
      · simpa [same, Configuration.get?, Configuration.hidePassword, ParameterMap.get?] using value

/-- With a level that names one, a parse for JSON prints the configuration of its URI, names in order
and values as they are, except that a password shows as stars unless it was asked for. On a fault it
prints a message that is no JSON, and the exit code tells whose fault it is. -/
theorem parse_prints_configuration {surroundings : Surroundings}
    {options : List (OptionName × Text)} {file : Option SettingsFile} {settings : Settings}
    {origin : Origin} {uri : Text} {arguments : List Text} {shows : Bool}
    (valued : ∀ option ∈ options, option.1.takesValue = true)
    (opened : fileOption surroundings (options.reverse.lookup .config) = .ok file)
    (loaded : (load file surroundings.defaultFile surroundings.environment).result =
      .ok (settings, origin))
    (named : NamesLevel (chosenLevel (options.reverse.lookup .logLevel) settings))
    (asks : AsksForJson arguments uri shows) (plain : uri.head? ≠ some '-') :
    let ending := (run surroundings (spelled options ++ "parse".toList :: arguments)).ending
    (∀ found, Connection.configuration settings.policy (.text uri) = .ok found →
      ∃ output entries, ending = .exit 0 output ∧ Prints found shows output entries) ∧
    ∀ outcome, (Connection.parse settings.policy (.text uri)).result = .ok outcome →
      (outcome.fault = some .client → ∃ output, ending = .exit 2 output ∧
        output = outputOf ["Invalid input: ".toList ++ shown outcome.message] ∧
        Json.read output = .error .malformed) ∧
      (outcome.fault = some .internal → ∃ output, ending = .exit 1 output ∧
        output = outputOf ["Internal error: ".toList ++ shown outcome.message] ∧
        Json.read output = .error .malformed) := by
  obtain ⟨journal, started⟩ : ∃ journal,
      start surroundings file (options.reverse.lookup .logLevel) .parse arguments =
        runNamed surroundings.stamp settings.policy .parse arguments journal :=
    start_of_named loaded named
  have reached : run surroundings (spelled options ++ "parse".toList :: arguments) =
      runCommand surroundings.stamp settings.policy (.parse uri true shows) journal := by
    rw [run_spelled valued opened, started, asks.runNamed_eq (looksLikeOption_of_head? plain)]
  rw [reached]
  intro ending
  refine ⟨?_, ?_⟩
  · intro found read
    obtain ⟨entries, prints⟩ := exists_prints found uri shows
    have ends : ending = _ := ending_of_configuration (.parse uri true shows) read _ _
    exact ⟨_, entries, ends, prints⟩
  · intro outcome parsed
    have ends : ending = _ := ending_runCommand _ _ (.parse uri true shows) _
    rw [Command.uri, parsed] at ends
    refine ⟨fun fault => ?_, fun fault => ?_⟩
    · simp only [endingOf, fault] at ends
      exact ⟨_, ends, rfl, read_faultLabel .client _⟩
    · simp only [endingOf, fault] at ends
      exact ⟨_, ends, rfl, read_faultLabel .internal _⟩

/-- The password of a query shows as stars, and a text that is no URI ends with a client's exit code. -/
theorem parse_prints_stars_and_fault :
    let file := levelFile "settings.yaml".toList "debug".toList
    let surroundings : Surroundings :=
      ⟨fun _ => file, ⟨"quickconnect.yaml".toList, .missing⟩, [], "TIME".toList⟩
    let endingOf (uri : Text) :=
      (run surroundings (spelled [(.config, "settings.yaml".toList)] ++
        "parse".toList :: [OptionName.json.spelling, uri])).ending
    (∃ output entries, endingOf Connection.collidingText = .exit 0 output ∧
      Prints (Connection.collidingSources.configuration .unrestricted) false output entries ∧
      entries.lookup passwordName = some "********".toList) ∧
    ∃ output, endingOf "ssh ://h/".toList = .exit 2 output ∧
      Json.read output = .error .malformed := by
  intro file surroundings endingOf
  have loaded := load_levelFile "settings.yaml".toList "debug".toList surroundings.defaultFile
  have valued : ∀ option ∈ [(OptionName.config, "settings.yaml".toList)],
      option.1.takesValue = true := List.forall_mem_singleton.mpr rfl
  constructor
  · have read := Connection.hasSources_colliding.configuration_eq .unrestricted
    have plain : Connection.collidingText.head? ≠ some '-' := by decide
    obtain ⟨output, entries, ends, prints⟩ := (parse_prints_configuration valued rfl loaded
      (by decide) (asksForJson_pair rfl) plain).1 _ read
    refine ⟨output, entries, ends, prints, ?_⟩
    rw [prints.values]
    decide
  · have plain : "ssh ://h/".toList.head? ≠ some '-' := by decide
    obtain ⟨cause, refused⟩ : ∃ cause,
        Uri.decompose "ssh ://h/".toList = .error (.syntaxError cause) := ⟨_, rfl⟩
    have parsed : (Connection.parse .unrestricted (.text "ssh ://h/".toList)).result =
        .ok (.failure ⟨.invalidUriSyntax, cause.message⟩) := by
      rw [Connection.parse_result, Connection.configuration_text, refused]
      rfl
    obtain ⟨output, ends, -, noJson⟩ := ((parse_prints_configuration valued rfl loaded
      (by decide) (asksForJson_pair rfl) plain).2 _ parsed).1 rfl
    exact ⟨output, ends, noJson⟩

end ConnectionUri.CommandLine
