import ConnectionUri.Proofs.Connection.Precedence
import ConnectionUri.Proofs.Text.Decimal
import ConnectionUri.Proofs.Uri.Composition

/-!
# Display names read back

A display name is a URI of a scheme and a server. `Plain` says which values are still themselves
after they were written there without any encoding, and `configuration_displayName` that the name of
a plain configuration is read as just these values, so that its name does not change any more.
-/

set_option autoImplicit false

/-!
## What a display name shows
-/

namespace ConnectionUri.Configuration

open Connection Uri

/-- The value of a name, unless it is empty. -/
def shown? (configuration : Configuration Text) (name : Text) : Option Text :=
  (configuration.get? name).bind UserInfo.nonempty

/-- The server that a display name is written with. -/
def shownServer (configuration : Configuration Text) : Server :=
  ⟨configuration.shown? userName, (configuration.shown? hostName).getD [],
    configuration.shown? portName⟩

/-- What a display name shows, in the order in which it is read. -/
def shownEntries (configuration : Configuration Text) : List (Text × Text) :=
  optionalEntry portName (configuration.shown? portName) ++
    optionalEntry hostName (configuration.shown? hostName) ++
    optionalEntry userName (configuration.shown? userName)

variable {configuration : Configuration Text}

theorem shown?_eq_some_iff {name value : Text} :
    configuration.shown? name = some value ↔ configuration.get? name = some value ∧ value ≠ [] := by
  simp only [shown?, Option.bind_eq_some_iff, nonempty_eq_some_iff]
  constructor
  · intro given
    obtain ⟨text, found, filled, rfl⟩ := given
    exact ⟨found, filled⟩
  · intro given
    exact ⟨value, given.1, given.2, rfl⟩

theorem bind_nonempty_shown? (configuration : Configuration Text) (name : Text) :
    (configuration.shown? name).bind UserInfo.nonempty = configuration.shown? name := by
  cases shown : configuration.shown? name with
  | none => rfl
  | some value => exact nonempty_eq_some_iff.mpr ⟨(shown?_eq_some_iff.mp shown).2, rfl⟩

theorem namePart_get? (configuration : Configuration Text) (before name after : Text) :
    namePart before (configuration.get? name) after =
      ((configuration.shown? name).map fun text => before ++ text ++ after).getD [] := by
  rw [shown?]
  cases configuration.get? name with
  | none => rfl
  | some text => cases text <;> rfl

/-- Only the protocol and the three values that are shown count for a display name. -/
theorem displayName_congr {left right : Configuration Text} (protocol : left.protocol = right.protocol)
    (shown : ∀ name ∈ [portName, hostName, userName], left.shown? name = right.shown? name) :
    left.displayName = right.displayName := by
  rw [displayName, displayName, protocol]
  simp only [namePart_get?, shown portName (by decide), shown hostName (by decide),
    shown userName (by decide)]

theorem displayName_eq_join (filled : configuration.protocol ≠ []) :
    configuration.displayName =
      Split.join ⟨some configuration.protocol, some configuration.shownServer.join, ['/'], none,
        none⟩ := by
  have named : namePart [] (some configuration.protocol) "://".toList =
      configuration.protocol ++ [':', '/', '/'] := by
    obtain ⟨first, rest, written⟩ := List.exists_cons_of_ne_nil filled
    rw [written]
    rfl
  simp only [displayName, named, namePart_get?, shownServer, Split.join, Server.join, closed, marked]
  cases configuration.shown? userName <;> cases configuration.shown? hostName <;>
    cases configuration.shown? portName <;> simp

/-- What is read from the entries that are shown shows the same. -/
theorem shown?_shownEntries (protocol : Text) {name : Text}
    (member : name ∈ [portName, hostName, userName]) :
    (Configuration.mk protocol (.ofList configuration.shownEntries)).shown? name =
      configuration.shown? name := by
  have given : (Configuration.mk protocol (.ofList configuration.shownEntries)).get? name =
      configuration.shown? name := by
    rw [get?, ParameterMap.get?_ofList, shownEntries]
    simp only [lastValue?_append, lastValue?_optionalEntry]
    simp only [List.mem_cons, List.not_mem_nil, or_false] at member
    rcases member with rfl | rfl | rfl
    · simp [show portName ≠ userName by decide, show portName ≠ hostName by decide]
    · simp [show hostName ≠ userName by decide, show hostName ≠ portName by decide]
    · simp [show userName ≠ hostName by decide, show userName ≠ portName by decide]
  rw [shown?, given, bind_nonempty_shown?]

theorem nodup_shownEntries : (configuration.shownEntries.map Prod.fst).Nodup := by
  have distinct : [portName, hostName, userName].Nodup := by decide
  refine distinct.sublist ?_
  cases ofPort : configuration.shown? portName <;> cases ofHost : configuration.shown? hostName <;>
    cases ofUser : configuration.shown? userName <;>
    simp [shownEntries, optionalEntry, ofPort, ofHost, ofUser]

end ConnectionUri.Configuration

/-!
## URIs of a scheme and a server
-/

namespace ConnectionUri.Uri

theorem freeOf_of_trimmed_scheme {scheme : Text}
    (legal : isScheme (Text.dropFinalNewline scheme) = true) :
    scheme ≠ [] ∧ FreeOf [':', '/', '?', '#'] scheme := by
  obtain ⟨filled, free⟩ := freeOf_of_isScheme legal
  rcases Text.dropFinalNewline_cases scheme with ⟨same, -⟩ | ended
  · exact same ▸ ⟨filled, free⟩
  · rw [ended]
    exact ⟨by simp, free.append (by simp [FreeOf])⟩

/-- A scheme, which may end in a line feed, and a legal server are found where they were written. -/
theorem decompose_bare {scheme : Text} {server : Server}
    (legal : isScheme (Text.dropFinalNewline scheme) = true) (serverLegal : server.Legal)
    (short : IsShort server.port) :
    decompose (Split.join ⟨some scheme, some server.join, ['/'], none, none⟩) =
      .ok ⟨some scheme, server.userInfo, some server.host, portValue server.port, none⟩ := by
  have splits : split (Split.join ⟨some scheme, some server.join, ['/'], none, none⟩) =
      ⟨some scheme, some server.join, ['/'], none, none⟩ := by
    refine FirstMarks.eq_split (.of_authority rfl serverLegal.freeOf (.inr ⟨[], rfl⟩) ?_ ?_ ?_)
    · intro written present
      cases present
      exact freeOf_of_trimmed_scheme legal
    · simp [FreeOf]
    · simp
  have kept : Text.dropFinalNewline server.join = server.join :=
    Text.dropFinalNewline_of_not_suffix (not_suffix_of_forall_isUriChar serverLegal.isUriChar)
  have trimmed : Split.trimmed ⟨some scheme, some server.join, ['/'], none, none⟩ =
      ⟨some (Text.dropFinalNewline scheme), some server.join, ['/'], none, none⟩ := by
    rw [Split.trimmed, Option.map_some, Option.map_some, kept]
    rfl
  have found : serverOf? ⟨some scheme, some server.join, ['/'], none, none⟩ = some server :=
    serverOf?_eq_some_iff.mpr ⟨serverLegal, by rw [trimmed]⟩
  rw [decompose_eq_ok_iff, splits, trimmed, found]
  refine ⟨?_, short, ?_⟩
  · constructor
    · simpa using legal
    · intro authority present
      cases present
      exact .inl ⟨server, serverLegal, rfl⟩
    · exact .char (by decide) .nil
    · simp
    · simp
  · simp only [Components.ofSplit, found]
    rfl

end ConnectionUri.Uri

/-!
## Texts that stand for themselves
-/

namespace ConnectionUri

theorem Percent.encodes_self {text : Text} (plain : ∀ char ∈ text, char ≠ '%' ∧ char ≠ '+') :
    Percent.Encodes text text := by
  induction text with
  | nil => exact .nil
  | cons char rest ih =>
      obtain ⟨noPercent, noPlus⟩ := plain char List.mem_cons_self
      exact .literal noPercent noPlus
        (ih fun other member => plain other (List.mem_cons_of_mem char member))

theorem UserInfo.nonempty_getD (text : Option Text) :
    UserInfo.nonempty (text.getD []) = text.bind UserInfo.nonempty := by
  cases text with
  | none => rfl
  | some text => rfl

theorem UserInfo.rawParts_of_not_mem {userInfo : Text} (absent : ':' ∉ userInfo) :
    UserInfo.rawParts userInfo = (userInfo, []) := by
  rw [UserInfo.rawParts, Text.cut_of_not_mem absent]

end ConnectionUri

/-!
## Plain configurations
-/

namespace ConnectionUri.Configuration

open Connection Uri

/-- A host that is there, a port and a user name that stand for themselves in a URI. -/
structure Plain (configuration : Configuration Text) : Prop where
  host : ∃ host, configuration.get? hostName = some host ∧ host ≠ [] ∧ IsHost host
  port : ∀ port, configuration.get? portName = some port → port ≠ [] →
    Text.IsNumeral port ∧ port.length ≤ Text.digitLimit
  username : ∀ username, configuration.get? userName = some username →
    ∀ char ∈ username, isNameChar char = true ∧ char ≠ '+'

/-- The sources of a display name. -/
def shownSources (configuration : Configuration Text) : Sources where
  components := ⟨some configuration.protocol, configuration.shownServer.userInfo,
    some configuration.shownServer.host, portValue configuration.shownServer.port, none⟩
  pairs := []
  username := configuration.shownServer.userInfo.getD []
  password := []

namespace Plain

variable {configuration : Configuration Text}

theorem shown_port (plain : configuration.Plain) :
    ∀ port ∈ configuration.shown? portName, Text.IsNumeral port ∧ port.length ≤ Text.digitLimit := by
  intro port shown
  obtain ⟨found, filled⟩ := shown?_eq_some_iff.mp shown
  exact plain.port port found filled

theorem shown_username (plain : configuration.Plain) :
    ∀ char ∈ (configuration.shown? userName).getD [], isNameChar char = true ∧ char ≠ '+' := by
  cases shown : configuration.shown? userName with
  | none => simp
  | some username => exact plain.username username (shown?_eq_some_iff.mp shown).1

theorem rawParts_userInfo (plain : configuration.Plain) :
    UserInfo.rawParts (configuration.shownServer.userInfo.getD []) =
      (configuration.shownServer.userInfo.getD [], []) := by
  apply UserInfo.rawParts_of_not_mem
  intro colon
  have isName := (plain.shown_username ':' colon).1
  revert isName
  decide

theorem encodes_userInfo (plain : configuration.Plain) :
    Percent.Encodes (configuration.shownServer.userInfo.getD [])
      (configuration.shownServer.userInfo.getD []) := by
  apply Percent.encodes_self
  intro char member
  obtain ⟨isName, noPlus⟩ := plain.shown_username char member
  refine ⟨?_, noPlus⟩
  rintro rfl
  revert isName
  decide

theorem server_legal (plain : configuration.Plain) : configuration.shownServer.Legal where
  userInfo := by
    intro username shown
    have given := plain.shown_username
    rw [show configuration.shown? userName = some username from shown] at given
    apply Spelled.of_forall
    intro char member
    rw [isUserInfoChar, (given char member).1]
    rfl
  host := by
    obtain ⟨host, found, filled, legal⟩ := plain.host
    rw [shownServer, shown?_eq_some_iff.mpr ⟨found, filled⟩]
    exact legal
  port := fun port shown => (plain.shown_port port shown).1.onlyDigits

theorem hasSources (plain : configuration.Plain)
    (protocol : isScheme (Text.dropFinalNewline configuration.protocol) = true) :
    HasSources configuration.displayName configuration.shownSources where
  decomposed := by
    rw [displayName_eq_join (freeOf_of_trimmed_scheme protocol).1]
    exact decompose_bare protocol plain.server_legal fun port shown => (plain.shown_port port shown).2
  pairs := by
    rw [shownSources, Option.getD_none, Query.segments_nil]
    rfl
  username := by
    rw [shownSources, plain.rawParts_userInfo]
    exact plain.encodes_userInfo.decode
  password := by
    rw [shownSources, plain.rawParts_userInfo]
    rfl

/-- A numeral is the number that it stands for, written in decimal. -/
theorem positivePort_shownSources (plain : configuration.Plain) :
    positivePort configuration.shownSources.components = configuration.shown? portName := by
  show ((portValue (configuration.shown? portName)).filter (0 < ·)).map Text.decimal = _
  cases shown : configuration.shown? portName with
  | none => rfl
  | some port =>
      obtain ⟨numeral, -⟩ := plain.shown_port port shown
      have value : portValue (some port) = some (Text.decimalValue port) := by
        obtain ⟨first, rest, rfl⟩ := List.exists_cons_of_ne_nil numeral.filled
        rfl
      rw [value, Option.filter_some, decide_eq_true numeral.decimalValue_pos, if_pos rfl,
        Option.map_some, numeral.decimal_decimalValue]

theorem writes_shownSources (plain : configuration.Plain) (policy : ParameterPolicy) :
    configuration.shownSources.writes policy = configuration.shownEntries := by
  obtain ⟨host, found, filled, -⟩ := plain.host
  have ofHost : configuration.shown? hostName = some host :=
    shown?_eq_some_iff.mpr ⟨found, filled⟩
  have ofUser : UserInfo.nonempty configuration.shownSources.username =
      configuration.shown? userName :=
    (UserInfo.nonempty_getD _).trans (bind_nonempty_shown? configuration userName)
  have written : orDefault defaultHost configuration.shownSources.components.host = host := by
    rw [shownSources, shownServer, ofHost]
    exact orDefault_eq_getD (by simpa using filled)
  rw [Sources.writes, plain.positivePort_shownSources, written, ofUser, shownEntries, ofHost,
    List.append_assoc]
  simp [shownSources, optionalEntry, UserInfo.nonempty]

/-- The name of a plain configuration is read as what it shows, under every policy. -/
theorem configuration_displayName (plain : configuration.Plain)
    (protocol : isScheme (Text.dropFinalNewline configuration.protocol) = true)
    (policy : ParameterPolicy) :
    Connection.configuration policy (.text configuration.displayName) =
      .ok ⟨configuration.protocol, .ofList configuration.shownEntries⟩ := by
  obtain ⟨filled, -⟩ := freeOf_of_trimmed_scheme protocol
  have kept : orDefault defaultProtocol configuration.shownSources.components.scheme =
      configuration.protocol := orDefault_eq_getD (by simpa [shownSources] using filled)
  rw [(plain.hasSources protocol).configuration_eq, Sources.configuration,
    plain.writes_shownSources, kept]

end Plain

/-- The display name of a plain configuration is read as a configuration with the same protocol that
holds the port, the host and the user name that the name shows, and nothing else, whatever the
policy. It has the same name again. -/
theorem name_reads_back {configuration : Configuration Text}
    (protocol : isScheme configuration.protocol = true) (plain : configuration.Plain) :
    ∃ found, (∀ policy, Connection.configuration policy (.text configuration.displayName) =
        .ok found) ∧
      found.protocol = configuration.protocol ∧
      found.parameters.entries = configuration.shownEntries ∧
      found.displayName = configuration.displayName := by
  have oneLine : Text.dropFinalNewline configuration.protocol = configuration.protocol :=
    Text.dropFinalNewline_of_not_suffix
      (not_suffix_of_forall_isUriChar (isUriChar_of_isScheme protocol))
  refine ⟨⟨configuration.protocol, .ofList configuration.shownEntries⟩, ?_, rfl, ?_, ?_⟩
  · exact plain.configuration_displayName (by rwa [oneLine])
  · exact ParameterMap.entries_ofList_of_nodup nodup_shownEntries
  · exact displayName_congr rfl fun name member => shown?_shownEntries configuration.protocol member

/-- A configuration that holds more than its name shows. -/
private def guarded : Configuration Text where
  protocol := "git+ssh".toList
  parameters := .ofList [("hostname".toList, "[::1]".toList), ("x?".toList, "/%".toList),
    ("username".toList, "a;é=".toList), ("password".toList, "p@".toList),
    ("port".toList, "8022".toList)]

private theorem guarded_plain : guarded.Plain where
  host := by
    have inside : "::1".toList.all isLiteralChar = true := by decide
    exact ⟨"[::1]".toList, rfl, by decide, .literal (by decide) (List.all_eq_true.mp inside)⟩
  port := by
    intro port found filled
    cases found
    have digits : "8022".toList.all Char.isDigit = true := by decide
    exact ⟨⟨List.all_eq_true.mp digits, filled, by decide⟩, by decide⟩
  username := by
    intro username found char member
    cases found
    have literal : "a;é=".toList.all (fun char => isNameChar char && char != '+') = true := by decide
    simpa using List.all_eq_true.mp literal char member

/-- An address literal and a delimiter in the user name are found again. -/
theorem name_reads_back_guarded :
    isScheme guarded.protocol = true ∧ guarded.Plain ∧
      guarded.displayName = "git+ssh://a;é=@[::1]:8022/".toList ∧
      ∃ found, (∀ policy, Connection.configuration policy
          (.text "git+ssh://a;é=@[::1]:8022/".toList) = .ok found) ∧
        found.protocol = "git+ssh".toList ∧
        found.parameters.entries = [("port".toList, "8022".toList),
          ("hostname".toList, "[::1]".toList), ("username".toList, "a;é=".toList)] ∧
        found.displayName = "git+ssh://a;é=@[::1]:8022/".toList := by
  have named : guarded.displayName = "git+ssh://a;é=@[::1]:8022/".toList := by decide
  have legal : isScheme guarded.protocol = true := by decide
  have reads := name_reads_back legal guarded_plain
  rw [named] at reads
  exact ⟨legal, guarded_plain, named, reads⟩

end ConnectionUri.Configuration
