import ConnectionUri.CommandLine.Run

/-!
# The program

The outer layer: it collects the arguments, the environment and the settings file, runs the
program on them, and prints what the run answers. A settings file is read as JSON.
-/

set_option autoImplicit false

namespace ConnectionUri.Main

def variableNames : List String :=
  ["QUICKCONNECT_LOG_LEVEL", "QUICKCONNECT_MASK_SENSITIVE_DATA", "QUICKCONNECT_PARAMETERS",
   "QUICKCONNECT_PARAMETERS__ALLOWED", "QUICKCONNECT_PARAMETERS__DENIED"]

/-- The variables that give settings. The program looks up these five spellings only, while the settings
match the names of variables in any case. -/
def environment : IO Settings.Environment :=
  variableNames.filterMapM fun name => do
    let value ← IO.getEnv name
    pure (value.map fun text => (name.toList, text.toList))

/-- The content of a file from its bytes. -/
def contentOf (bytes : List UInt8) : Settings.FileContent :=
  match Utf8.fault? 0 bytes with
  | some fault => .notUtf8 fault
  | none =>
    let text := (Utf8.decode? bytes).getD []
    if (Json.skipSpace text).isEmpty then .empty
    else
      match Json.parse? text with
      | some value => .data value
      | none => .malformed "not a JSON text".toList

/-- The file at a path. What cannot be read counts as missing. -/
def fileAt (path : String) : IO Settings.SettingsFile := do
  let content ←
    try
      let bytes ← IO.FS.readBinFile path
      pure (contentOf bytes.toList)
    catch _ => pure .missing
  pure ⟨path.toList, content⟩

def namedFile (arguments : List Text) : IO (Option Settings.SettingsFile) :=
  match CommandLine.sortArguments CommandLine.programOptions false arguments with
  | .ok sorted =>
    match sorted.value? .config with
    | some path => return some (← fileAt (String.ofList path))
    | none => return none
  | .error _ => return none

def homeFile : IO Settings.SettingsFile := do
  let home ← IO.getEnv "HOME"
  fileAt (home.getD "" ++ "/.config/quickconnect/quickconnect.yaml")

def helpText : String :=
  "Usage: cli [--config PATH] [--log-level TEXT] [--version] [--help] COMMAND\n\n" ++
  "Commands:\n" ++
  "  name URI                             Print the display name generated for URI.\n" ++
  "  parse URI [--json] [--show-password] Parse URI and print the configuration."

def fatalText : CommandLine.FatalError → Text
  | .load (.invalid problems) =>
    Json.line (.list ((Settings.sortProblems problems).map Settings.Problem.toValue))
  | .load (.environment error) => error.message
  | .load (.file error) => error.message
  | .load .unnamed => Settings.unnamedMessage
  | .setup error => error.message
  | .format error => error.message
  | .portTooLong error => error.message

def finish : CommandLine.Ending → IO UInt32
  | .usage _ => do
    IO.eprintln helpText
    pure 2
  | .help => do
    IO.println helpText
    pure 0
  | .exit code output => do
    IO.print (String.ofList output)
    pure code.toUInt32
  | .fatal error => do
    IO.eprintln (String.ofList (fatalText error))
    pure 1

end ConnectionUri.Main

def main (arguments : List String) : IO UInt32 := do
  let words := arguments.map String.toList
  let named ← ConnectionUri.Main.namedFile words
  let defaultFile ← ConnectionUri.Main.homeFile
  let environment ← ConnectionUri.Main.environment
  let milliseconds ← IO.monoMsNow
  let result := ConnectionUri.CommandLine.run
    { fileAt := fun path => named.getD ⟨path, .missing⟩
      defaultFile := defaultFile
      environment := environment
      stamp := ConnectionUri.Text.decimal milliseconds } words
  IO.eprint (String.ofList result.journal.stream)
  ConnectionUri.Main.finish result.ending
