import ConnectionUri.Settings.Basic
import ConnectionUri.Settings.Problem

/-!
# Checking settings

Values are checked field by field, and all the problems of a value are found, not only the first.
-/

set_option autoImplicit false

namespace ConnectionUri.Settings

/-- A checked value, or all the problems that were found. -/
abbrev Checked (α : Type) := Except (List Problem) α

/-- Puts two checked values together; the problems of both are kept. -/
def Checked.both {α β γ : Type} (combine : α → β → γ) :
    Checked α → Checked β → Checked γ
  | .ok left, .ok right => .ok (combine left right)
  | .error problems, .ok _ => .error problems
  | .ok _, .error problems => .error problems
  | .error first, .error second => .error (first ++ second)

/-- A checked text. -/
def checkText (path : List Step) : Value → Checked Text
  | .text text => .ok text
  | _ => .error [⟨path, .stringType⟩]

/-- The words that stand for no. -/
def noWords : List Text :=
  ["0".toList, "off".toList, "f".toList, "false".toList, "n".toList, "no".toList]

def yesWords : List Text :=
  ["1".toList, "on".toList, "t".toList, "true".toList, "y".toList, "yes".toList]

/-- The truth value of an integer: zero or one. Another one is unreadable if it is of a machine
size, and else of the wrong kind. -/
def boolOfInteger (path : List Step) (isMachineSized : Bool) (value : Int) : Checked Bool :=
  if value = 0 then .ok false
  else if value = 1 then .ok true
  else if isMachineSized then .error [⟨path, .boolParsing⟩]
  else .error [⟨path, .boolType⟩]

/-- The least positive number that no machine integer holds. -/
def wordBound : Int := 0x8000000000000000

/-- A checked truth value: one itself, the numbers zero and one, or a word in any case. Machine
integers have 64 bits; the least one does not count when it is written as a real number. -/
def checkBool (path : List Step) : Value → Checked Bool
  | .boolean value => .ok value
  | .integer value => boolOfInteger path (-wordBound ≤ value && value < wordBound) value
  | .real number =>
    match number.integer? with
    | some value => boolOfInteger path (-wordBound < value && value < wordBound) value
    | none => .error [⟨path, .boolType⟩]
  | .text text =>
    let word := text.map Char.toLower
    if noWords.contains word then .ok false
    else if yesWords.contains word then .ok true
    else .error [⟨path, .boolParsing⟩]
  | _ => .error [⟨path, .boolType⟩]

/-- Checked items of a list of texts, counted from `index`. -/
def checkItems (path : List Step) : Nat → List Value → Checked (List Text)
  | _, [] => .ok []
  | index, item :: rest =>
    Checked.both List.cons (checkText (path ++ [.item index]) item)
      (checkItems path (index + 1) rest)

def checkTexts (path : List Step) : Value → Checked (List Text)
  | .list items => checkItems path 0 items
  | _ => .error [⟨path, .listType⟩]

def checkField {α : Type} (check : List Step → Value → Checked α) (default : α) (path : List Step)
    (field : Text) (entries : Mapping) : Checked α :=
  match Mapping.get? field entries with
  | some value => check (path ++ [.field field]) value
  | none => .ok default

/-- The problems of the fields of a policy that are not known. -/
def extraProblems (path : List Step) (entries : Mapping) : List Problem :=
  (entries.filter fun entry => !([allowedField, deniedField].contains entry.1)).map fun entry =>
    ⟨path ++ [.field entry.1], .extraForbidden⟩

def checkPolicyFields (path : List Step) (entries : Mapping) : Checked ParameterPolicy :=
  let fields := Checked.both ParameterPolicy.ofNames
    (checkField checkTexts [] path allowedField entries)
    (checkField checkTexts [] path deniedField entries)
  match extraProblems path entries with
  | [] => fields
  | problems => Checked.both (fun policy _ => policy) fields (.error problems : Checked Unit)

def checkPolicy (path : List Step) : Value → Checked ParameterPolicy
  | .mapping entries => checkPolicyFields path entries
  | _ => .error [⟨path, .modelType⟩]

/-- Checked settings from their fields. Fields that are not known do not matter. -/
def ofMapping (entries : Mapping) : Checked Settings :=
  Checked.both (fun level (rest : Bool × ParameterPolicy) => ⟨level, rest.1, rest.2⟩)
    (checkField checkText default.logLevel [] levelField entries)
    (Checked.both Prod.mk
      (checkField checkBool default.masksSensitiveData [] maskField entries)
      (checkField checkPolicy default.policy [] policyField entries))

end ConnectionUri.Settings
