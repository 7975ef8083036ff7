import ConnectionUri.Configuration

/-!
# Parse outcomes

An outcome holds a configuration, or the fault that prevented it with a message. It also keeps the
error itself, which does not count when outcomes are compared.
-/

set_option autoImplicit false

namespace ConnectionUri

/-- The side that a failure is attributed to. -/
inductive Fault where
  | client
  | internal
  deriving DecidableEq

/-- The kinds of reported errors: two sides, one named error on each, and errors of neither. -/
inductive ErrorKind where
  | general
  | clientFault
  | internalFault
  | invalidUriSyntax
  | decoding
  deriving DecidableEq

/-- The side at fault. An error that is not the client's counts as internal. -/
def ErrorKind.fault : ErrorKind → Fault
  | .clientFault | .invalidUriSyntax => .client
  | .general | .internalFault | .decoding => .internal

/-- An error as it is reported. -/
structure ErrorReport where
  kind : ErrorKind
  message : Text
  deriving DecidableEq

/-- The result of parsing a URI. -/
structure Outcome (α : Type) where
  configuration : Option (Configuration α)
  fault : Option Fault
  message : Text
  error : Option ErrorReport
  deriving DecidableEq

/-- Why an outcome holds nothing to hand out. -/
inductive UnwrapError where
  | reported (report : ErrorReport)
  | empty
  deriving DecidableEq

namespace Outcome

variable {α β : Type}

def success (configuration : Configuration α) : Outcome α := ⟨some configuration, none, [], none⟩

def failure (report : ErrorReport) : Outcome α :=
  ⟨none, some report.kind.fault, report.message, some report⟩

/-- Whether no fault is recorded. -/
def isOk (outcome : Outcome α) : Bool := outcome.fault.isNone

/-- The configuration; a kept error comes first. -/
def unwrap (outcome : Outcome α) : Except UnwrapError (Configuration α) :=
  match outcome.error, outcome.configuration with
  | some report, _ => .error (.reported report)
  | none, some configuration => .ok configuration
  | none, none => .error .empty

/-- Whether two optional configurations are both absent or agree. -/
def sameConfiguration [DecidableEq α] :
    Option (Configuration α) → Option (Configuration α) → Bool
  | none, none => true
  | some left, some right => left.agrees right
  | _, _ => false

/-- Whether two outcomes agree in configuration, fault and message. -/
def agrees [DecidableEq α] (left right : Outcome α) : Bool :=
  sameConfiguration left.configuration right.configuration && left.fault == right.fault &&
    left.message == right.message

/-- What an outcome is hashed by: what is compared, a configuration by its own key. -/
def hashKey (outcome : Outcome α) : Option (Text × List (Text × α)) × Option Fault × Text :=
  (outcome.configuration.map Configuration.hashKey, outcome.fault, outcome.message)

/-- An outcome with every value of its configuration changed. -/
def mapValues (change : α → β) (outcome : Outcome α) : Outcome β where
  configuration := outcome.configuration.map (Configuration.mapValues change)
  fault := outcome.fault
  message := outcome.message
  error := outcome.error

end Outcome

namespace UnwrapError

def message : UnwrapError → Text
  | .reported report => report.message
  | .empty => "ParseOutcome holds neither a configuration nor an error".toList

end UnwrapError

/-- Why a fault name is refused. -/
structure UnknownFault where
  name : Text

namespace Fault

def name : Fault → Text
  | .client => "client".toList
  | .internal => "internal".toList

def ofName (text : Text) : Except UnknownFault Fault :=
  if text = name .client then .ok .client
  else if text = name .internal then .ok .internal
  else .error ⟨text⟩

end Fault

def UnknownFault.message (error : UnknownFault) : Text :=
  Text.quoted error.name ++ " is not a valid Fault".toList

end ConnectionUri
