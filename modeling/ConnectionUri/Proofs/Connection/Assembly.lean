import ConnectionUri.Connection

/-!
# The writes of a configuration

`assemble_parameters` gives the parameters of an assembled configuration as one list of writes, in
the order of the sources: the port, the host, the permitted query parameters, the user name and the
password.
-/

set_option autoImplicit false

namespace ConnectionUri.Connection

/-- The entry of a name whose value may be missing. -/
def optionalEntry (name : Text) (value : Option Text) : List (Text × Text) :=
  (value.map fun value => (name, value)).toList

/-- The port that the authority sets, if it is positive. -/
def positivePort (components : Uri.Components) : Option Text :=
  (components.port.filter (0 < ·)).map Text.decimal

/-- What the sources of a configuration write, one after another. -/
def writes (policy : ParameterPolicy) (components : Uri.Components) (query : ParameterMap Text)
    (userInfo : UserInfo) : List (Text × Text) :=
  optionalEntry portName (positivePort components) ++
    (hostName, orDefault defaultHost components.host) ::
      ((query.entries.filter fun entry => policy.permits entry.1) ++
        optionalEntry userName userInfo.username ++ optionalEntry passwordName userInfo.password)

theorem insertIfPresent_eq_insertMany (map : ParameterMap Text) (name : Text)
    (value : Option Text) :
    insertIfPresent map name value = map.insertMany (optionalEntry name value) := by
  cases value <;> rfl

theorem authorityParameters_eq_ofList (components : Uri.Components) :
    authorityParameters components =
      .ofList (optionalEntry portName (positivePort components) ++
        [(hostName, orDefault defaultHost components.host)]) := by
  unfold authorityParameters positivePort
  cases components.port with
  | none => rfl
  | some port =>
      cases port with
      | zero => rfl
      | succ port => rfl

/-- The parameters of a configuration are what its sources write, one after another. -/
theorem assemble_parameters (policy : ParameterPolicy) (components : Uri.Components)
    (query : ParameterMap Text) (userInfo : UserInfo) :
    (assemble policy components query userInfo).parameters =
      .ofList (writes policy components query userInfo) := by
  simp only [assemble, writes, insertIfPresent_eq_insertMany, authorityParameters_eq_ofList,
    ParameterMap.ofList, ← ParameterMap.insertMany_append]
  simp only [List.append_assoc, List.cons_append, List.nil_append]

end ConnectionUri.Connection
