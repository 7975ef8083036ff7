import ConnectionUri.ParameterMap
import ConnectionUri.Uri.Components

/-!
# Connection configurations

A configuration is a protocol and named parameters. The values of a configuration that was read are
texts; one put together by hand may name a parameter without a value. Two configurations agree when
their protocols are the same and their parameters hold the same entries in any order. The hash key,
on the other hand, keeps the order. The display name is written from the protocol, the user name,
the host and the port, and nothing in it is encoded again.
-/

set_option autoImplicit false

namespace ConnectionUri

def portName : Text := "port".toList

def hostName : Text := "hostname".toList

def userName : Text := "username".toList

def passwordName : Text := "password".toList

/-- A protocol and the named parameters of a connection. -/
structure Configuration (α : Type) where
  protocol : Text
  parameters : ParameterMap α
  deriving DecidableEq

namespace Configuration

variable {α β : Type}

def get? (configuration : Configuration α) (name : Text) : Option α :=
  configuration.parameters.get? name

/-- Whether two configurations are the same up to the order of their parameters. -/
def agrees [DecidableEq α] (left right : Configuration α) : Bool :=
  left.protocol == right.protocol && left.parameters.agrees right.parameters

/-- What a configuration is hashed by: its protocol and its parameters in order. -/
def hashKey (configuration : Configuration α) : Text × List (Text × α) :=
  (configuration.protocol, configuration.parameters.entries)

/-- A configuration with every value changed. -/
def mapValues (change : α → β) (configuration : Configuration α) : Configuration β :=
  ⟨configuration.protocol, configuration.parameters.mapValues change⟩

/-- A part with what stands before and after it, or nothing if the part is absent or empty. -/
def namePart (before : Text) (part : Option Text) (after : Text) : Text :=
  match part with
  | none | some [] => []
  | some part => before ++ part ++ after

/-- The display name. The password never occurs in it. -/
def displayName (configuration : Configuration Text) : Text :=
  namePart [] (some configuration.protocol) "://".toList ++
    namePart [] (configuration.get? userName) ['@'] ++
    namePart [] (configuration.get? hostName) [] ++
    namePart [':'] (configuration.get? portName) [] ++ ['/']

/-- A configuration whose password, if it has one, is hidden behind stars. -/
def hidePassword (configuration : Configuration Text) : Configuration Text :=
  { configuration with
    parameters := configuration.parameters.replace passwordName "********".toList }

end Configuration

end ConnectionUri
