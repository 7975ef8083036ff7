import ConnectionUri.Text.Basic

/-!
# Command-line arguments

Options come before the name of a command, and a command has options and arguments of its own in
any order. Two hyphens end the options. An option is never abbreviated, and one that takes a value
takes the text after its equals sign or the next argument, whatever that looks like.
-/

set_option autoImplicit false

namespace ConnectionUri.CommandLine

/-- The options of the program and of its commands. -/
inductive OptionName where
  | help
  | version
  | config
  | logLevel
  | json
  | showPassword
  deriving DecidableEq

namespace OptionName

def spelling : OptionName → Text
  | .help => "--help".toList
  | .version => "--version".toList
  | .config => "--config".toList
  | .logLevel => "--log-level".toList
  | .json => "--json".toList
  | .showPassword => "--show-password".toList

def takesValue : OptionName → Bool
  | .config | .logLevel => true
  | _ => false

end OptionName

/-- The arguments are not what the program takes. -/
inductive UsageError where
  | unknownOption (name : Text)
  | unexpectedValue (name : Text)
  | missingValue (name : Text)
  | missingCommand
  | unknownCommand (name : Text)
  | noSuchFile (path : Text)
  | missingArgument
  | extraArguments (arguments : List Text)
  deriving DecidableEq

/-- Arguments sorted into options, in order, and the rest. -/
structure Sorted where
  options : List (OptionName × Text)
  rest : List Text
  deriving DecidableEq

namespace Sorted

def withOption (name : OptionName) (value : Text) (sorted : Sorted) : Sorted :=
  { sorted with options := (name, value) :: sorted.options }

def withArgument (argument : Text) (sorted : Sorted) : Sorted :=
  { sorted with rest := argument :: sorted.rest }

/-- The value of an option; the last one counts. -/
def value? (sorted : Sorted) (name : OptionName) : Option Text :=
  sorted.options.reverse.lookup name

def has (sorted : Sorted) (name : OptionName) : Bool := (sorted.value? name).isSome

end Sorted

def looksLikeOption : Text → Bool
  | '-' :: _ :: _ => true
  | _ => false

def optionNamed? (known : List OptionName) (spelling : Text) : Option OptionName :=
  known.find? fun name => name.spelling == spelling

/-- Sorts arguments. Unless options may follow arguments, the first argument ends the options. -/
def sortArguments (known : List OptionName) (optionsMayFollow : Bool) :
    List Text → Except UsageError Sorted
  | [] => .ok ⟨[], []⟩
  | argument :: rest =>
    if argument = "--".toList then .ok ⟨[], rest⟩
    else if looksLikeOption argument then
      let (spelling, attached) := Text.cut '=' argument
      match optionNamed? known spelling with
      | none => .error (.unknownOption spelling)
      | some name =>
        if name.takesValue then
          match attached with
          | some value => (sortArguments known optionsMayFollow rest).map (·.withOption name value)
          | none =>
            match rest with
            | [] => .error (.missingValue spelling)
            | value :: rest =>
              (sortArguments known optionsMayFollow rest).map (·.withOption name value)
        else if attached.isSome then .error (.unexpectedValue spelling)
        else (sortArguments known optionsMayFollow rest).map (·.withOption name [])
    else if optionsMayFollow then
      (sortArguments known optionsMayFollow rest).map (·.withArgument argument)
    else .ok ⟨[], argument :: rest⟩

/-- The first option that ends the program at once. -/
def Sorted.ending? (sorted : Sorted) : Option OptionName :=
  (sorted.options.map Prod.fst).find? fun name => name == .help || name == .version

/-- The options before the command. -/
def programOptions : List OptionName := [.version, .config, .logLevel, .help]

/-- The commands. -/
inductive CommandName where
  | parse
  | name
  deriving DecidableEq

namespace CommandName

def ofText? (text : Text) : Option CommandName :=
  if text = "parse".toList then some .parse
  else if text = "name".toList then some .name
  else none

def options : CommandName → List OptionName
  | .parse => [.json, .showPassword, .help]
  | .name => [.help]

end CommandName

/-- A command with its argument and options. -/
inductive Command where
  | parse (uri : Text) (json showPassword : Bool)
  | name (uri : Text)
  deriving DecidableEq

def commandOf (command : CommandName) (sorted : Sorted) : Except UsageError Command :=
  match sorted.rest with
  | [] => .error .missingArgument
  | [uri] =>
    match command with
    | .parse => .ok (.parse uri (sorted.has .json) (sorted.has .showPassword))
    | .name => .ok (.name uri)
  | arguments => .error (.extraArguments arguments)

end ConnectionUri.CommandLine
