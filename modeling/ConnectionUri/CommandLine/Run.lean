import ConnectionUri.CommandLine.Arguments
import ConnectionUri.CommandLine.StyleCode
import ConnectionUri.CommandLine.Table
import ConnectionUri.Connection
import ConnectionUri.Log.Journal
import ConnectionUri.Settings.Load

/-!
# Running a command

A run sorts its arguments, loads the settings, sets the log up, and only then looks at the
arguments of the command. It ends with an exit code and an output, with a usage error, with help,
or with an error that no command handles. The console is as wide as what it shows: the width at which
it would break a message or a table is left out.
-/

set_option autoImplicit false

namespace ConnectionUri.CommandLine

/-- An error that ends the program. -/
inductive FatalError where
  | load (error : Settings.LoadError)
  | setup (error : Log.SetupError)
  | format (error : Log.FormatError)
  | portTooLong (error : Uri.PortTooLong)
  deriving DecidableEq

/-- How a run ends. -/
inductive Ending where
  | usage (error : UsageError)
  | help
  | exit (code : Nat) (output : Text)
  | fatal (error : FatalError)
  deriving DecidableEq

/-- The end of a run and what was logged. -/
structure Result where
  ending : Ending
  journal : Log.Journal

/-- What a run finds around it: settings files, the environment, and the time stamp of the log. -/
structure Surroundings where
  fileAt : Text → Settings.SettingsFile
  defaultFile : Settings.SettingsFile
  environment : Settings.Environment
  stamp : Text

/-- The lines of an output, each ended by a line feed. -/
def outputOf (lines : List Text) : Text := lines.flatMap fun line => line ++ ['\n']

/-- The output of `--version`. -/
def versionOutput : Text := outputOf ["cli, version 1.0.0".toList]

def exitCode : Fault → Nat
  | .client => 2
  | .internal => 1

def faultLabel : Fault → Text
  | .client => "Invalid input: ".toList
  | .internal => "Internal error: ".toList

def configurationValue (configuration : Configuration Text) (displayName : Text) : Value :=
  .mapping [("protocol".toList, .text configuration.protocol),
    ("parameters".toList, .mapping (configuration.parameters.entries.map fun entry =>
      (entry.1, .text entry.2))),
    ("name".toList, .text displayName)]

def jsonOutput (configuration : Configuration Text) (displayName : Text) : Text :=
  outputOf [Json.indented 0 (configurationValue configuration displayName)]

def tableOutput (configuration : Configuration Text) (displayName : Text) : Text :=
  let rows := configuration.parameters.entries.map fun entry => (shown entry.1, shown entry.2)
  outputOf (["Protocol: ".toList ++ shown configuration.protocol] ++
    Table.lines "Parameters".toList ("Name".toList, "Value".toList) rows ++
    ["Name: ".toList ++ shown displayName])

/-- The output of a display name, which may have come with style codes. -/
def nameOutput (displayName : Text) : Text := outputOf [withoutStyleCodes displayName]

def commandOutput (command : Command) (configuration : Configuration Text) : Text :=
  match command with
  | .name _ => nameOutput configuration.displayName
  | .parse _ json showPassword =>
    let printed := if showPassword then configuration else configuration.hidePassword
    if json then jsonOutput printed configuration.displayName
    else tableOutput printed configuration.displayName

def Command.uri : Command → Text
  | .parse uri _ _ => uri
  | .name uri => uri

def endingOf (command : Command) (outcome : Outcome Text) : Ending :=
  match outcome.fault, outcome.configuration with
  | some fault, _ =>
    .exit (exitCode fault) (outputOf [faultLabel fault ++ shown outcome.message])
  | none, some configuration => .exit 0 (commandOutput command configuration)
  | none, none => .exit 0 []

/-- Runs a command under a policy. -/
def runCommand (stamp : Text) (policy : ParameterPolicy) (command : Command)
    (journal : Log.Journal) : Result :=
  let run := Connection.parse policy (.text command.uri)
  match journal.logAll stamp run.records with
  | (some error, journal) => ⟨.fatal (.format error), journal⟩
  | (none, journal) =>
    match run.result with
    | .error error => ⟨.fatal (.portTooLong error), journal⟩
    | .ok outcome => ⟨endingOf command outcome, journal⟩

def runNamed (stamp : Text) (policy : ParameterPolicy) (command : CommandName)
    (arguments : List Text) (journal : Log.Journal) : Result :=
  match sortArguments command.options true arguments with
  | .error error => ⟨.usage error, journal⟩
  | .ok sorted =>
    if sorted.has .help then ⟨.help, journal⟩
    else
      match commandOf command sorted with
      | .error error => ⟨.usage error, journal⟩
      | .ok command => runCommand stamp policy command journal

/-- The level that the log is set up with: that of the option, unless it is absent or empty. -/
def chosenLevel (option : Option Text) (settings : Settings) : Text :=
  match option with
  | none | some [] => settings.logLevel
  | some level => level

/-- Loads the settings, sets the log up and goes on with the command. -/
def start (surroundings : Surroundings) (file : Option Settings.SettingsFile)
    (level : Option Text) (command : CommandName) (arguments : List Text) : Result :=
  let loading := Settings.load file surroundings.defaultFile surroundings.environment
  match Log.Journal.empty.logAll surroundings.stamp loading.records with
  | (some error, journal) => ⟨.fatal (.format error), journal⟩
  | (none, journal) =>
    match loading.result with
    | .error error => ⟨.fatal (.load error), journal⟩
    | .ok (settings, _) =>
      match journal.setup (chosenLevel level settings) settings.masksSensitiveData none with
      | (.error error, journal) => ⟨.fatal (.setup error), journal⟩
      | (.ok (), journal) => runNamed surroundings.stamp settings.policy command arguments journal

def endAtOnce (name : OptionName) : Result :=
  match name with
  | .version => ⟨.exit 0 versionOutput, .empty⟩
  | _ => ⟨.help, .empty⟩

/-- A settings file that exists and is no directory. -/
def usableFile (surroundings : Surroundings) (path : Text) :
    Except UsageError Settings.SettingsFile :=
  let file := surroundings.fileAt path
  match file.content with
  | .missing | .directory => .error (.noSuchFile path)
  | _ => .ok file

/-- The settings file of an option, if the option is there. -/
def fileOption (surroundings : Surroundings) (option : Option Text) :
    Except UsageError (Option Settings.SettingsFile) :=
  match option with
  | none => .ok none
  | some path => (usableFile surroundings path).map some

/-- The end of a run whose command is not known. A name that looks like an option is read as one. -/
def unknownCommand (name : Text) (rest : List Text) : Result :=
  let refused : Result := ⟨.usage (.unknownCommand name), .empty⟩
  match sortArguments programOptions false (name :: rest) with
  | .ok sorted =>
    match sorted.ending? with
    | some ending => endAtOnce ending
    | none => refused
  | .error _ => refused

def run (surroundings : Surroundings) (arguments : List Text) : Result :=
  match sortArguments programOptions false arguments with
  | .error error => ⟨.usage error, .empty⟩
  | .ok sorted =>
    match sorted.ending? with
    | some ending => endAtOnce ending
    | none =>
      match fileOption surroundings (sorted.value? .config) with
      | .error error => ⟨.usage error, .empty⟩
      | .ok file =>
        match sorted.rest with
        | [] => ⟨.usage .missingCommand, .empty⟩
        | word :: arguments =>
          match CommandName.ofText? word with
          | none => unknownCommand word arguments
          | some command => start surroundings file (sorted.value? .logLevel) command arguments

end ConnectionUri.CommandLine
