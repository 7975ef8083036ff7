import ConnectionUri.Outcome
import ConnectionUri.UserInfo

/-!
# Comparing results

Configurations, user-infos and outcomes are values that can be compared, hashed and never changed.
Their parameters may lack a value, as in a configuration that was put together by hand. Values of
different kinds never agree.
-/

set_option autoImplicit false

namespace ConnectionUri

/-- A result of one of the three kinds. -/
inductive Entity where
  | configuration (configuration : Configuration (Option Text))
  | userInfo (userInfo : UserInfo)
  | outcome (outcome : Outcome (Option Text))
  deriving DecidableEq

namespace Entity

def ofConfiguration (configuration : Configuration Text) : Entity :=
  .configuration (configuration.mapValues some)

def ofOutcome (outcome : Outcome Text) : Entity := .outcome (outcome.mapValues some)

def agrees : Entity → Entity → Bool
  | .configuration left, .configuration right => left.agrees right
  | .userInfo left, .userInfo right => left == right
  | .outcome left, .outcome right => left.agrees right
  | _, _ => false

/-- Whether two results are of one kind and are hashed by the same key. -/
def sameHash : Entity → Entity → Bool
  | .configuration left, .configuration right => left.hashKey == right.hashKey
  | .userInfo left, .userInfo right => left == right
  | .outcome left, .outcome right => left.hashKey == right.hashKey
  | _, _ => false

end Entity

namespace Configuration

/-- A configuration with an empty text for every absent value, which changes no display name. -/
def withoutAbsent (configuration : Configuration (Option Text)) : Configuration Text :=
  configuration.mapValues fun value => value.getD []

end Configuration

/-- An attempt to change a value: a field, or a parameter that is set or deleted. -/
inductive ChangeError where
  | field (name : Text)
  | setParameter
  | deleteParameter
  deriving DecidableEq

def ChangeError.message : ChangeError → Text
  | .field name => "cannot assign to field ".toList ++ Text.quoted name
  | .setParameter => "'mappingproxy' object does not support item assignment".toList
  | .deleteParameter => "'mappingproxy' object does not support item deletion".toList

end ConnectionUri
