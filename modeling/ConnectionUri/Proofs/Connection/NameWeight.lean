import ConnectionUri.Proofs.Connection.DisplayName
import ConnectionUri.Proofs.Percent.Counting

/-!
# What display names are made of

The pieces that a configuration is read from stand in a text side by side, and decoding makes counted
characters fewer. So `HasSources.countP_displayName_le` can say that a display name has no more of
them than the text that it was made of and the marks and defaults that a name may add.
-/

set_option autoImplicit false

/-!
## Pieces side by side
-/

namespace ConnectionUri

theorem Text.dropFinalNewline_prefix (text : Text) : Text.dropFinalNewline text <+: text := by
  rcases Text.dropFinalNewline_cases text with ⟨same, -⟩ | ended
  · exact ⟨[], (List.append_nil _).trans same⟩
  · exact ⟨['\n'], ended.symm⟩

theorem Uri.getD_sublist_marked (mark : Text) (part : Option Text) :
    List.Sublist (part.getD []) (Uri.marked mark part) := by
  cases part with
  | none => exact List.Sublist.refl []
  | some text => exact List.sublist_append_right mark text

theorem Uri.getD_sublist_closed (scheme : Option Text) :
    List.Sublist (scheme.getD []) (Uri.closed scheme) := by
  cases scheme with
  | none => exact List.Sublist.refl []
  | some scheme => exact List.sublist_append_left scheme [':']

theorem Text.cut_sublist (mark : Char) (text : Text) :
    List.Sublist ((Text.cut mark text).1 ++ (Text.cut mark text).2.getD []) text := by
  have pieces := (List.Sublist.refl (Text.cut mark text).1).append
    (Uri.getD_sublist_marked [mark] (Text.cut mark text).2)
  rwa [Uri.cut_marked] at pieces

theorem UserInfo.rawParts_eq (userInfo : Text) :
    UserInfo.rawParts userInfo =
      ((Text.cut ':' userInfo).1, (Text.cut ':' userInfo).2.getD []) := by
  rw [UserInfo.rawParts]
  cases Text.cut ':' userInfo with
  | mk username password => cases password <;> rfl

theorem UserInfo.rawParts_sublist (userInfo : Text) :
    List.Sublist ((UserInfo.rawParts userInfo).1 ++ (UserInfo.rawParts userInfo).2) userInfo := by
  rw [UserInfo.rawParts_eq]
  exact Text.cut_sublist ':' userInfo

theorem Query.rawEntry_sublist (segment : Text) :
    List.Sublist ((Query.rawEntry segment).1 ++ (Query.rawEntry segment).2) segment := by
  have raw : Query.rawEntry segment =
      ((Text.cut '=' segment).1, (Text.cut '=' segment).2.getD []) := by
    rw [Query.rawEntry]
    cases Text.cut '=' segment with
    | mk name value => cases value <;> rfl
  rw [raw]
  exact Text.cut_sublist '=' segment

end ConnectionUri

namespace ConnectionUri.Query

theorem flatten_sublist_joined (list : List Text) :
    List.Sublist list.flatten (Text.joined ['&'] list) := by
  induction list with
  | nil => exact List.Sublist.refl []
  | cons first rest ih =>
      cases rest with
      | nil => simp [Text.joined]
      | cons second rest =>
          rw [joined_cons_cons, List.flatten_cons]
          exact (List.Sublist.refl first).append (ih.cons '&')

theorem flatten_segments_sublist (query : Text) : List.Sublist (segments query).flatten query := by
  have whole : Text.joined ['&'] (List.splitOn '&' query) = query := List.intercalate_splitOn '&'
  have pieces := flatten_sublist_joined (List.splitOn '&' query)
  rw [whole] at pieces
  rwa [segments, List.flatten_filter_not_isEmpty]

end ConnectionUri.Query

namespace ConnectionUri.Uri

open Connection

/-- A positive port is written with the last digits of the raw port. -/
theorem decimal_suffix_of_portValue {port : Option Text} (legal : IsPort port) {number : Nat}
    (value : portValue port = some number) (positive : 0 < number) :
    Text.decimal number <:+ port.getD [] := by
  have digits : ∀ digit ∈ port.getD [], digit.isDigit = true := by
    cases port with
    | none => simp
    | some digits => exact legal digits rfl
  have same : Text.decimalValue (port.getD []) = number := by
    match port with
    | none => cases value
    | some [] => cases value
    | some (first :: rest) => exact Option.some.inj value
  rw [← same] at positive ⊢
  exact Text.decimal_suffix digits positive

theorem positivePort_sublist {port : Option Text} (legal : IsPort port) {components : Components}
    (value : components.port = portValue port) :
    List.Sublist ((positivePort components).getD []) (port.getD []) := by
  cases shown : positivePort components with
  | none => exact List.nil_sublist _
  | some text =>
      obtain ⟨number, present, positive, rfl⟩ := positivePort_eq_some_iff.mp shown
      rw [value] at present
      exact (decimal_suffix_of_portValue legal present positive).sublist

theorem Server.sublist_join (server : Server) :
    List.Sublist (server.userInfo.getD [] ++ server.host ++ server.port.getD []) server.join := by
  obtain ⟨userInfo, host, port⟩ := server
  have ofPort := getD_sublist_marked [':'] port
  cases userInfo with
  | none => exact (List.Sublist.refl host).append ofPort
  | some userInfo =>
      exact ((List.sublist_append_left userInfo ['@']).append (List.Sublist.refl host)).append ofPort

theorem server_pieces_sublist (parts : Split) :
    List.Sublist ((Components.ofSplit parts).userInfo.getD [] ++
      (Components.ofSplit parts).host.getD [] ++ (positivePort (.ofSplit parts)).getD [])
      (marked ['/', '/'] parts.authority) := by
  cases found : serverOf? parts with
  | none => simp [Components.ofSplit, found, positivePort, portValue]
  | some server =>
      obtain ⟨legal, written⟩ := serverOf?_eq_some_iff.mp found
      obtain ⟨authority, present, same⟩ := Option.map_eq_some_iff.mp written
      have userInfo : (Components.ofSplit parts).userInfo = server.userInfo := by
        rw [Components.ofSplit, found]
        rfl
      have host : (Components.ofSplit parts).host = some server.host := by
        rw [Components.ofSplit, found]
        rfl
      have port : (Components.ofSplit parts).port = portValue server.port := by
        rw [Components.ofSplit, found]
        rfl
      have inJoin := ((List.Sublist.refl (server.userInfo.getD [] ++ server.host)).append
        (positivePort_sublist legal.port port)).trans server.sublist_join
      rw [← same] at inJoin
      rw [userInfo, host, present]
      exact inJoin.trans ((Text.dropFinalNewline_prefix authority).sublist.trans
        (List.sublist_append_right ['/', '/'] authority))

/-- The raw pieces of a configuration stand in its text one after another. -/
theorem pieces_sublist {uri : Text} {components : Components}
    (decomposed : decompose uri = .ok components) :
    List.Sublist (components.scheme.getD [] ++ (components.userInfo.getD [] ++
      components.host.getD [] ++ (positivePort components).getD []) ++
        marked ['?'] components.query) uri := by
  obtain ⟨-, -, rfl⟩ := decompose_eq_ok_iff.mp decomposed
  have ofScheme := getD_sublist_closed (split uri).scheme
  have front := (ofScheme.append (server_pieces_sublist (split uri))).trans
    (List.sublist_append_left _ (split uri).path)
  have whole := (front.append (List.Sublist.refl (marked ['?'] (split uri).query))).trans
    (List.sublist_append_left _ (marked ['#'] (split uri).fragment))
  rw [← Split.join, join_split] at whole
  exact whole

end ConnectionUri.Uri

/-!
## Values under distinct names
-/

namespace ConnectionUri

/-- The last value of a name, or an empty one. -/
def foundValue (entries : List (Text × Text)) (name : Text) : Text :=
  (lastValue? name entries).getD []

theorem foundValue_cons_of_ne {name other : Text} (differs : name ≠ other) (value : Text)
    (rest : List (Text × Text)) :
    foundValue ((other, value) :: rest) name = foundValue rest name := by
  rw [foundValue, lastValue?_cons, if_neg differs, Option.or_none, foundValue]

variable (counted : Char → Bool)

theorem countP_foundValue_cons_le (name value : Text) (rest : List (Text × Text)) :
    (foundValue ((name, value) :: rest) name).countP counted ≤
      value.countP counted + (foundValue rest name).countP counted := by
  rw [foundValue, lastValue?_cons, if_pos rfl, foundValue]
  cases lastValue? name rest with
  | none => exact Nat.le_add_right _ _
  | some last => exact Nat.le_add_left _ _

/-- One more entry counts for one of distinct names at most. -/
theorem countP_foundValues_cons_le {names : List Text} (distinct : names.Nodup) (other value : Text)
    (rest : List (Text × Text)) :
    (names.flatMap (foundValue ((other, value) :: rest))).countP counted ≤
      value.countP counted + (names.flatMap (foundValue rest)).countP counted := by
  induction names with
  | nil => exact Nat.zero_le _
  | cons name names ih =>
      obtain ⟨fresh, restDistinct⟩ := List.nodup_cons.mp distinct
      rw [List.flatMap_cons, List.flatMap_cons, List.countP_append, List.countP_append]
      by_cases same : name = other
      · subst same
        have others : names.flatMap (foundValue ((name, value) :: rest)) =
            names.flatMap (foundValue rest) := by
          rw [List.flatMap_def, List.flatMap_def]
          refine congrArg List.flatten (List.map_congr_left ?_)
          intro later member
          exact foundValue_cons_of_ne (ne_of_mem_of_not_mem member fresh) value rest
        have here := countP_foundValue_cons_le counted name value rest
        rw [others]
        omega
      · have later := ih restDistinct
        rw [foundValue_cons_of_ne same]
        omega

/-- Under distinct names no entry is found twice. -/
theorem countP_foundValues_le {names : List Text} (distinct : names.Nodup)
    (entries : List (Text × Text)) :
    (names.flatMap (foundValue entries)).countP counted ≤
      (entries.flatMap Prod.snd).countP counted := by
  induction entries with
  | nil =>
      have none : names.flatMap (foundValue []) = [] := List.flatMap_eq_nil_iff.mpr fun _ _ => rfl
      rw [none, List.countP_nil]
      exact Nat.zero_le _
  | cons entry rest ih =>
      obtain ⟨other, value⟩ := entry
      have step := countP_foundValues_cons_le counted distinct other value rest
      rw [List.flatMap_cons, List.countP_append]
      exact Nat.le_trans step (Nat.add_le_add_left ih _)

theorem flatMap_filter_sublist (keep : Text × Text → Bool) (entries : List (Text × Text)) :
    List.Sublist ((entries.filter keep).flatMap Prod.snd) (entries.flatMap Prod.snd) := by
  induction entries with
  | nil => exact List.Sublist.refl []
  | cons first rest ih =>
      rw [List.filter_cons, List.flatMap_cons]
      split
      · exact (List.Sublist.refl first.2).append ih
      · exact ih.trans (List.sublist_append_right first.2 _)

end ConnectionUri

/-!
## Values of configurations
-/

namespace ConnectionUri

variable (counted : Char → Bool)

theorem Query.countP_entries_le {counted : Char → Bool} (shrinks : Percent.Shrinks counted)
    {list : List Text} {pairs : List (Text × Text)} (decoded : Query.entries list = .ok pairs) :
    (pairs.flatMap Prod.snd).countP counted ≤ list.flatten.countP counted := by
  induction list generalizing pairs with
  | nil =>
      cases decoded
      exact Nat.le_refl 0
  | cons segment rest ih =>
      obtain ⟨first, more, ofFirst, ofRest, rfl⟩ := Query.entries_cons_eq_ok_iff.mp decoded
      have later := ih ofRest
      have ofValue := shrinks.countP_decode_le (Query.entry_eq_ok_iff.mp ofFirst).2
      have within := (Query.rawEntry_sublist segment).countP_le (p := counted)
      rw [List.countP_append] at within
      rw [List.flatMap_cons, List.flatten_cons, List.countP_append, List.countP_append]
      omega

namespace Connection

theorem getD_nonempty (text : Text) : (UserInfo.nonempty text).getD [] = text := by
  cases text <;> rfl

theorem flatMap_optionalEntry (name : Text) (value : Option Text) :
    (optionalEntry name value).flatMap Prod.snd = value.getD [] := by
  cases value with
  | none => rfl
  | some value => exact List.append_nil value

theorem Sources.countP_writes_le (policy : ParameterPolicy) (sources : Sources) :
    ((sources.writes policy).flatMap Prod.snd).countP counted ≤
      ((positivePort sources.components).getD []).countP counted +
        (orDefault defaultHost sources.components.host).countP counted +
        (sources.pairs.flatMap Prod.snd).countP counted +
        sources.username.countP counted + sources.password.countP counted := by
  have permitted := (flatMap_filter_sublist (fun pair => policy.permits pair.1)
    sources.pairs).countP_le (p := counted)
  rw [Sources.writes]
  simp only [List.flatMap_append, List.flatMap_cons, flatMap_optionalEntry, getD_nonempty,
    List.countP_append]
  omega

/-- The values of distinct names together are no more than what the sources write. -/
theorem Sources.countP_get?_le (policy : ParameterPolicy) (sources : Sources) {names : List Text}
    (distinct : names.Nodup) :
    (names.flatMap fun name => ((sources.configuration policy).get? name).getD []).countP counted ≤
      ((sources.writes policy).flatMap Prod.snd).countP counted := by
  have found : ∀ name, ((sources.configuration policy).get? name).getD [] =
      foundValue (sources.writes policy) name := by
    intro name
    rw [Configuration.get?, Sources.configuration, ParameterMap.get?_ofList, foundValue]
  simp only [found]
  exact countP_foundValues_le counted distinct (sources.writes policy)

end Connection

end ConnectionUri

/-!
## Display names
-/

namespace ConnectionUri.Connection

open Uri

variable (counted : Char → Bool)

theorem countP_namePart (before : Text) (part : Option Text) (after : Text) :
    (Configuration.namePart before part after).countP counted ≤
      before.countP counted + (part.getD []).countP counted + after.countP counted := by
  match part with
  | none => exact Nat.zero_le _
  | some [] => exact Nat.zero_le _
  | some (first :: rest) =>
      have written : Configuration.namePart before (some (first :: rest)) after =
          before ++ (first :: rest) ++ after := rfl
      exact Nat.le_of_eq (by rw [written, List.countP_append, List.countP_append, Option.getD_some])

theorem countP_displayName_le (configuration : Configuration Text) :
    configuration.displayName.countP counted ≤
      configuration.protocol.countP counted +
        ([userName, hostName, portName].flatMap fun name =>
          (configuration.get? name).getD []).countP counted +
        "://@:/".toList.countP counted := by
  have ofProtocol := countP_namePart counted [] (some configuration.protocol) "://".toList
  have ofUser := countP_namePart counted [] (configuration.get? userName) ['@']
  have ofHost := countP_namePart counted [] (configuration.get? hostName) []
  have ofPort := countP_namePart counted [':'] (configuration.get? portName) []
  have marks : "://@:/".toList = "://".toList ++ ['@'] ++ [':'] ++ ['/'] := rfl
  rw [marks, Configuration.displayName]
  simp only [List.countP_append, List.countP_nil, Option.getD_some, List.flatMap_cons,
    List.flatMap_nil] at *
  omega

theorem countP_orDefault_le (default : Text) (text : Option Text) :
    (orDefault default text).countP counted ≤
      default.countP counted + (text.getD []).countP counted := by
  match text with
  | none => exact Nat.le_add_right _ _
  | some [] => exact Nat.le_add_right _ _
  | some (_ :: _) => exact Nat.le_add_left _ _

theorem countP_marked (mark : Char) (part : Option Text) :
    (marked [mark] part).countP counted =
      (part.map fun _ => mark).toList.countP counted + (part.getD []).countP counted := by
  cases part with
  | none => rfl
  | some text => exact List.countP_append

/-- The marks and the defaults that a display name may add. -/
def nameFrame : Text := defaultProtocol ++ defaultHost ++ "://@:/".toList

variable {counted : Char → Bool} {uri : Text} {sources : Sources}

/-- A display name counts no more than its text and the frame, and fewer by the escapes of the user
name and by the question mark of a query. -/
theorem HasSources.countP_displayName_le (has : HasSources uri sources)
    (shrinks : Percent.Shrinks counted) (policy : ParameterPolicy) :
    (sources.configuration policy).displayName.countP counted +
        (UserInfo.rawParts (sources.components.userInfo.getD [])).1.count '%' +
        (sources.components.query.map fun _ => '?').toList.countP counted ≤
      uri.countP counted + nameFrame.countP counted := by
  have shown := Connection.countP_displayName_le counted (sources.configuration policy)
  have values := sources.countP_get?_le counted policy
    (show [userName, hostName, portName].Nodup by decide)
  have written := sources.countP_writes_le counted policy
  have protocol : (sources.configuration policy).protocol.countP counted ≤ _ :=
    countP_orDefault_le counted defaultProtocol sources.components.scheme
  have host := countP_orDefault_le counted defaultHost sources.components.host
  have username := shrinks.countP_decode_le has.username
  have password := shrinks.countP_decode_le has.password
  have credentials := (UserInfo.rawParts_sublist
    (sources.components.userInfo.getD [])).countP_le (p := counted)
  have pairs := Query.countP_entries_le shrinks has.pairs
  have query := (Query.flatten_segments_sublist
    (sources.components.query.getD [])).countP_le (p := counted)
  have pieces := (pieces_sublist has.decomposed).countP_le (p := counted)
  have frame : nameFrame.countP counted = defaultProtocol.countP counted +
      defaultHost.countP counted + "://@:/".toList.countP counted := by
    rw [nameFrame, List.countP_append, List.countP_append]
  simp only [List.countP_append, countP_marked] at credentials pieces
  omega

end ConnectionUri.Connection
