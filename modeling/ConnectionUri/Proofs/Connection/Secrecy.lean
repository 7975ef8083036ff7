import ConnectionUri.Proofs.CommandLine.Ending
import ConnectionUri.Proofs.Connection.Sources
import ConnectionUri.Proofs.Uri.UserInfo

/-!
# Where a password goes

Two texts that differ in the password of their user-info have sources that differ in that password
and in the raw user-info alone. `password_confined` follows the difference from there: it reaches
the parameter that holds the password, and nothing that a command prints unless it is asked to.
-/

set_option autoImplicit false

/-!
## Configurations that agree but for the password
-/

namespace ConnectionUri

/-- Two configurations differ in the value of the password, or in whether there is one. -/
structure Configuration.SameButPassword (left right : Configuration Text) : Prop where
  protocol : left.protocol = right.protocol
  values : ∀ name, name ≠ passwordName → left.get? name = right.get? name

namespace Configuration.SameButPassword

variable {left right : Configuration Text}

theorem displayName (same : left.SameButPassword right) : left.displayName = right.displayName := by
  rw [Configuration.displayName, Configuration.displayName, same.protocol,
    same.values userName (by decide), same.values hostName (by decide),
    same.values portName (by decide)]

/-- Of a hidden password nothing but its place is left. -/
theorem hidePassword (same : left.SameButPassword right)
    (names : left.parameters.names = right.parameters.names) :
    left.hidePassword = right.hidePassword := by
  have parameters := ParameterMap.replace_congr "********".toList names same.values
  rw [Configuration.hidePassword, Configuration.hidePassword, parameters, same.protocol]

end Configuration.SameButPassword

end ConnectionUri

/-!
## Sources with another password
-/

namespace ConnectionUri.Connection

namespace Sources

/-- Sources with another raw user-info and another password. -/
def withPassword (sources : Sources) (userInfo : Option Text) (password : Text) : Sources :=
  { sources with components := { sources.components with userInfo }, password }

variable {policy : ParameterPolicy} {sources : Sources} {userInfo : Option Text} {password : Text}

theorem sameButPassword_withPassword (policy : ParameterPolicy) (sources : Sources)
    (userInfo : Option Text) (password : Text) : (sources.configuration policy).SameButPassword
      ((sources.withPassword userInfo password).configuration policy) where
  protocol := rfl
  values := by
    intro name other
    rw [get?_configuration, get?_configuration, if_neg other, if_neg other]
    rfl

/-- A password that is there stands in the same place, whichever source it is from. -/
theorem names_of_password (present : (sources.configuration policy).get? passwordName ≠ none) :
    (sources.configuration policy).parameters.names =
      (({ sources with password := [] }.writes policy).map Prod.fst ++ [passwordName]).eraseDups := by
  have known : passwordName ∈ (sources.configuration policy).parameters.names := by
    apply Classical.byContradiction
    intro absent
    exact present (ParameterMap.get?_eq_none_iff.mpr absent)
  rw [names_configuration] at known ⊢
  obtain ⟨components, pairs, username, password⟩ := sources
  -- An empty password is not written, so the name that is there comes from the query.
  cases password with
  | nil => rw [eraseDups_append_cons_of_mem (List.mem_eraseDups.mp known), List.append_nil]
  | cons first rest =>
      simp [writes, UserInfo.nonempty, optionalEntry]

theorem names_withPassword
    (present : (sources.configuration policy).get? passwordName ≠ none)
    (presentToo : ((sources.withPassword userInfo password).configuration policy).get?
      passwordName ≠ none) :
    (sources.configuration policy).parameters.names =
      ((sources.withPassword userInfo password).configuration policy).parameters.names := by
  rw [names_of_password present, names_of_password presentToo]
  rfl

theorem hidePassword_withPassword
    (present : (sources.configuration policy).get? passwordName ≠ none)
    (presentToo : ((sources.withPassword userInfo password).configuration policy).get?
      passwordName ≠ none) :
    (sources.configuration policy).hidePassword =
      ((sources.withPassword userInfo password).configuration policy).hidePassword :=
  (sources.sameButPassword_withPassword policy userInfo password).hidePassword
    (names_withPassword present presentToo)

end Sources

end ConnectionUri.Connection

/-!
## Texts with another password
-/

namespace ConnectionUri.UserInfo

theorem rawParts_append_cons {username : Text} (noColon : ':' ∉ username) (password : Text) :
    rawParts (username ++ ':' :: password) = (username, password) := by
  simp only [rawParts, Text.cut_append_cons noColon]

end ConnectionUri.UserInfo

namespace ConnectionUri.Connection

open Uri

/-- A text whose user-info holds a user name and a password. -/
def secured (scheme : Option Text) (username password rest : Text) : Text :=
  closed scheme ++ ['/', '/'] ++ username ++ [':'] ++ password ++ ['@'] ++ rest

theorem secured_eq_credentialed (scheme : Option Text) (username password rest : Text) :
    secured scheme username password rest =
      credentialed scheme (username ++ ':' :: password) rest := by
  simp [secured, credentialed]

variable {scheme : Option Text} {username left right rest : Text}

theorem decompose_secured (named : ∀ name ∈ scheme, isScheme name = true)
    (ofName : Spelled isUserInfoChar username) (ofLeft : Spelled isUserInfoChar left)
    (ofRight : Spelled isUserInfoChar right) {components : Components}
    (accepted : decompose (secured scheme username left rest) = .ok components) :
    (∀ userInfo ∈ components.userInfo, userInfo = username ++ ':' :: left) ∧
      decompose (secured scheme username right rest) =
        .ok { components with
          userInfo := components.userInfo.map fun _ => username ++ ':' :: right } := by
  rw [secured_eq_credentialed] at accepted ⊢
  exact decompose_credentialed named (ofName.append (.char (by decide) ofLeft))
    (ofName.append (.char (by decide) ofRight)) accepted

theorem HasSources.secured (named : ∀ name ∈ scheme, isScheme name = true)
    (noColon : ':' ∉ username) (ofName : Spelled isUserInfoChar username)
    (ofLeft : Spelled isUserInfoChar left) (ofRight : Spelled isUserInfoChar right)
    {sources other : Sources} (hasLeft : HasSources (secured scheme username left rest) sources)
    (hasRight : HasSources (secured scheme username right rest) other) :
    other = sources.withPassword other.components.userInfo other.password := by
  obtain ⟨written, accepted⟩ := decompose_secured named ofName ofLeft ofRight hasLeft.decomposed
  have components := Except.ok.inj (hasRight.decomposed.symm.trans accepted)
  have pairs : other.pairs = sources.pairs := by
    have ofOther := hasRight.pairs
    rw [components] at ofOther
    exact Except.ok.inj (ofOther.symm.trans hasLeft.pairs)
  have name : other.username = sources.username := by
    have ofOther := hasRight.username
    have ofSources := hasLeft.username
    rw [components] at ofOther
    cases present : sources.components.userInfo with
    | none =>
        simp only [present] at ofOther ofSources
        exact Except.ok.inj (ofOther.symm.trans ofSources)
    | some userInfo =>
        obtain rfl := written userInfo present
        simp only [present, Option.map_some, Option.getD_some,
          UserInfo.rawParts_append_cons noColon] at ofOther ofSources
        exact Except.ok.inj (ofOther.symm.trans ofSources)
  obtain ⟨otherComponents, otherPairs, otherName, otherPassword⟩ := other
  simp only at components pairs name
  subst components pairs name
  rfl

theorem configuration_secured (named : ∀ name ∈ scheme, isScheme name = true)
    (noColon : ':' ∉ username) (ofName : Spelled isUserInfoChar username)
    (ofLeft : Spelled isUserInfoChar left) (ofRight : Spelled isUserInfoChar right)
    {policy : ParameterPolicy} {found other : Configuration Text}
    (readLeft : configuration policy (.text (secured scheme username left rest)) = .ok found)
    (readRight : configuration policy (.text (secured scheme username right rest)) = .ok other) :
    ∃ (sources : Sources) (userInfo : Option Text) (password : Text),
      found = sources.configuration policy ∧
        other = (sources.withPassword userInfo password).configuration policy := by
  obtain ⟨sources, hasLeft, ofSources⟩ := configuration_eq_ok_iff.mp readLeft
  obtain ⟨others, hasRight, ofOthers⟩ := configuration_eq_ok_iff.mp readRight
  have related := hasLeft.secured named noColon ofName ofLeft ofRight hasRight
  exact ⟨sources, others.components.userInfo, others.password, ofSources, related ▸ ofOthers⟩

theorem looksLikeOption_secured (named : ∀ name ∈ scheme, isScheme name = true)
    (password : Text) :
    CommandLine.looksLikeOption (secured scheme username password rest) = false := by
  cases scheme with
  | none => rfl
  | some name =>
      have legal := named name rfl
      cases name with
      | nil => cases legal
      | cons first more =>
          have differs : first ≠ '-' := by
            rintro rfl
            cases legal
          exact CommandLine.looksLikeOption_cons differs _

end ConnectionUri.Connection

/-!
## Commands
-/

namespace ConnectionUri.Connection

open Uri CommandLine

/-- Two runs of a command exit with zero and print the same. What they log is not compared. -/
def PrintSame (policy : ParameterPolicy) (command : CommandName) (left right : List Text) : Prop :=
  ∀ stamp journal, ∃ output,
    (runNamed stamp policy command left journal).ending = .exit 0 output ∧
      (runNamed stamp policy command right journal).ending = .exit 0 output

/-- The difference between two texts reaches the parameter for the password and nothing else: they
decompose together and alike, their configurations under a policy differ in that parameter at most,
and the commands print the same of them while the password is hidden. -/
structure PasswordConfined (left right : Text) : Prop where
  accepted : (∃ components, decompose left = .ok components) ↔
    ∃ components, decompose right = .ok components
  components : ∀ ofLeft ofRight, decompose left = .ok ofLeft → decompose right = .ok ofRight →
    ofLeft.scheme = ofRight.scheme ∧ ofLeft.host = ofRight.host ∧ ofLeft.port = ofRight.port ∧
      ofLeft.query = ofRight.query
  parameters : ∀ policy ofLeft ofRight, configuration policy (.text left) = .ok ofLeft →
    configuration policy (.text right) = .ok ofRight →
    ofLeft.SameButPassword ofRight ∧ ofLeft.displayName = ofRight.displayName
  name : ∀ policy ofLeft ofRight, configuration policy (.text left) = .ok ofLeft →
    configuration policy (.text right) = .ok ofRight → PrintSame policy .name [left] [right]
  parse : ∀ policy ofLeft ofRight, configuration policy (.text left) = .ok ofLeft →
    configuration policy (.text right) = .ok ofRight →
    ofLeft.get? passwordName ≠ none → ofRight.get? passwordName ≠ none →
    ∀ json, PrintSame policy .parse (parseArguments json left) (parseArguments json right)

theorem printSame_name {policy : ParameterPolicy} {left right : Text}
    {ofLeft ofRight : Configuration Text} (plainLeft : looksLikeOption left = false)
    (plainRight : looksLikeOption right = false)
    (readLeft : configuration policy (.text left) = .ok ofLeft)
    (readRight : configuration policy (.text right) = .ok ofRight)
    (same : ofLeft.displayName = ofRight.displayName) :
    PrintSame policy .name [left] [right] := by
  intro stamp journal
  rw [runNamed_name plainLeft, runNamed_name plainRight]
  refine ⟨nameOutput ofLeft.displayName, ending_of_configuration (.name left) readLeft stamp journal, ?_⟩
  rw [same]
  exact ending_of_configuration (.name right) readRight stamp journal

theorem printSame_parse {policy : ParameterPolicy} {left right : Text}
    {ofLeft ofRight : Configuration Text} (plainLeft : looksLikeOption left = false)
    (plainRight : looksLikeOption right = false)
    (readLeft : configuration policy (.text left) = .ok ofLeft)
    (readRight : configuration policy (.text right) = .ok ofRight)
    (same : ofLeft.displayName = ofRight.displayName)
    (hidden : ofLeft.hidePassword = ofRight.hidePassword) (json : Bool) :
    PrintSame policy .parse (parseArguments json left) (parseArguments json right) := by
  intro stamp journal
  rw [runNamed_parse plainLeft, runNamed_parse plainRight]
  have output : commandOutput (.parse right json false) ofRight =
      commandOutput (.parse left json false) ofLeft := by
    simp only [commandOutput, Bool.false_eq_true, if_false, same, hidden]
  refine ⟨commandOutput (.parse left json false) ofLeft,
    ending_of_configuration (.parse left json false) readLeft stamp journal, ?_⟩
  rw [← output]
  exact ending_of_configuration (.parse right json false) readRight stamp journal

/-- The password of a user-info is confined to the parameter that holds it. -/
theorem password_confined {scheme : Option Text} {username left right rest : Text}
    (named : ∀ name ∈ scheme, isScheme name = true) (noColon : ':' ∉ username)
    (ofName : Spelled isUserInfoChar username) (ofLeft : Spelled isUserInfoChar left)
    (ofRight : Spelled isUserInfoChar right) :
    PasswordConfined (secured scheme username left rest) (secured scheme username right rest) where
  accepted := by
    constructor
    · intro ⟨components, accepted⟩
      exact ⟨_, (decompose_secured named ofName ofLeft ofRight accepted).2⟩
    · intro ⟨components, accepted⟩
      exact ⟨_, (decompose_secured named ofName ofRight ofLeft accepted).2⟩
  components := by
    intro components other accepted acceptedToo
    obtain ⟨-, expected⟩ := decompose_secured named ofName ofLeft ofRight accepted
    obtain rfl := Except.ok.inj (acceptedToo.symm.trans expected)
    exact ⟨rfl, rfl, rfl, rfl⟩
  parameters := by
    intro policy found other readLeft readRight
    obtain ⟨sources, userInfo, password, rfl, rfl⟩ :=
      configuration_secured named noColon ofName ofLeft ofRight readLeft readRight
    have same := sources.sameButPassword_withPassword policy userInfo password
    exact ⟨same, same.displayName⟩
  name := by
    intro policy found other readLeft readRight
    obtain ⟨sources, userInfo, password, rfl, rfl⟩ :=
      configuration_secured named noColon ofName ofLeft ofRight readLeft readRight
    exact printSame_name (looksLikeOption_secured named left) (looksLikeOption_secured named right)
      readLeft readRight (sources.sameButPassword_withPassword policy userInfo password).displayName
  parse := by
    intro policy found other readLeft readRight present presentToo json
    obtain ⟨sources, userInfo, password, rfl, rfl⟩ :=
      configuration_secured named noColon ofName ofLeft ofRight readLeft readRight
    exact printSame_parse (looksLikeOption_secured named left) (looksLikeOption_secured named right)
      readLeft readRight (sources.sameButPassword_withPassword policy userInfo password).displayName
      (Sources.hidePassword_withPassword present presentToo) json

/-- Sources of a text with a password in its query, and maybe one in its user-info. -/
def doublySecured (userInfo password : Text) : Sources where
  components := ⟨some "ssh".toList, some userInfo, some "h".toList, some 22,
    some "password=q".toList⟩
  pairs := [(passwordName, "q".toList)]
  username := "al".toList
  password := password

private theorem entries_doublySecured :
    Query.entries (Query.segments "password=q".toList) = .ok [(passwordName, "q".toList)] := by
  have rendered : "password=q".toList = Query.render [(passwordName, "q".toList)] := rfl
  rw [rendered, Query.segments_render, Query.entries_map_segment]

/-- An empty password lets the one in the query through, and what is printed stays the same. -/
theorem password_confined_empty :
    (∀ name ∈ some "ssh".toList, isScheme name = true) ∧ ':' ∉ "al".toList ∧
      Spelled isUserInfoChar "al".toList ∧ Spelled isUserInfoChar "p".toList ∧
      Spelled isUserInfoChar [] ∧
      ∃ found other, configuration .unrestricted (.text "ssh://al:p@h:22/?password=q".toList) =
          .ok found ∧
        configuration .unrestricted (.text "ssh://al:@h:22/?password=q".toList) = .ok other ∧
        found.get? passwordName = some "p".toList ∧ other.get? passwordName = some "q".toList ∧
        found.displayName = other.displayName ∧
        PrintSame .unrestricted .parse (parseArguments true "ssh://al:p@h:22/?password=q".toList)
          (parseArguments true "ssh://al:@h:22/?password=q".toList) := by
  have named : ∀ name ∈ some "ssh".toList, isScheme name = true := by
    rintro _ ⟨⟩
    rfl
  have noColon : ':' ∉ "al".toList := by decide
  have ofName : Spelled isUserInfoChar "al".toList := (isSpelled_iff (by decide)).mp rfl
  have ofLeft : Spelled isUserInfoChar "p".toList := (isSpelled_iff (by decide)).mp rfl
  have hasLeft : HasSources "ssh://al:p@h:22/?password=q".toList
      (doublySecured "al:p".toList "p".toList) := ⟨rfl, entries_doublySecured, rfl, rfl⟩
  have hasRight : HasSources "ssh://al:@h:22/?password=q".toList
      (doublySecured "al:".toList []) := ⟨rfl, entries_doublySecured, rfl, rfl⟩
  have confined : PasswordConfined
      (secured (some "ssh".toList) "al".toList "p".toList "h:22/?password=q".toList)
      (secured (some "ssh".toList) "al".toList [] "h:22/?password=q".toList) :=
    password_confined named noColon ofName ofLeft .nil
  have readLeft := hasLeft.configuration_eq .unrestricted
  have readRight := hasRight.configuration_eq .unrestricted
  have secret : ((doublySecured "al:p".toList "p".toList).configuration .unrestricted).get?
      passwordName = some "p".toList := by decide
  have secretToo : ((doublySecured "al:".toList []).configuration .unrestricted).get?
      passwordName = some "q".toList := by decide
  exact ⟨named, noColon, ofName, ofLeft, .nil, _, _, readLeft, readRight, secret, secretToo,
    (confined.parameters _ _ _ readLeft readRight).2,
    confined.parse _ _ _ readLeft readRight (by rw [secret]; exact Option.some_ne_none _)
      (by rw [secretToo]; exact Option.some_ne_none _) true⟩

end ConnectionUri.Connection
