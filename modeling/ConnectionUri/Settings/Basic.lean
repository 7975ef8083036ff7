import ConnectionUri.ParameterPolicy

/-!
# Settings

The settings of the program: the level and the masking of the log, and the policy for query
parameters. Each has a field name and a default.
-/

set_option autoImplicit false

namespace ConnectionUri

/-- The settings of the program. -/
structure Settings where
  logLevel : Text
  masksSensitiveData : Bool
  policy : ParameterPolicy

namespace Settings

def levelField : Text := "log_level".toList

def maskField : Text := "mask_sensitive_data".toList

def policyField : Text := "parameters".toList

def allowedField : Text := "allowed".toList

def deniedField : Text := "denied".toList

def fieldNames : List Text := [levelField, maskField, policyField]

def default : Settings := ⟨"INFO".toList, true, .unrestricted⟩

end Settings

end ConnectionUri
