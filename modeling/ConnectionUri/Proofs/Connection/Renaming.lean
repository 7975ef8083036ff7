import ConnectionUri.Proofs.Connection.Faults
import ConnectionUri.Proofs.Connection.NameWeight
import ConnectionUri.Settings.Basic

/-!
# Texts renamed again and again

The display name of a text is a text that may be read and named in its turn. Names are not encoded, so
what was decoded for one can hold new marks for the next. A round that decodes an escape of a user name
or drops a query leaves fewer signs, and a name made in any other round is its own name or is refused.
`renaming_settles` follows: the rounds end after no more of them than a text has signs, and one.
-/

set_option autoImplicit false

/-!
## Rounds
-/

namespace ConnectionUri.Connection

/-- The display name of the configuration of a text. -/
def rename (policy : ParameterPolicy) (uri : Text) : Except ConnectionError Text :=
  (configuration policy (.text uri)).map Configuration.displayName

/-- A text after some rounds of naming, each of which may fail. -/
def renamed (policy : ParameterPolicy) : Nat → Text → Except ConnectionError Text
  | 0, uri => .ok uri
  | rounds + 1, uri => do
    let next ← rename policy uri
    renamed policy rounds next

/-- A text that has no configuration, or is the display name of its own. -/
def Settled (policy : ParameterPolicy) (uri : Text) : Prop :=
  (∃ error, configuration policy (.text uri) = .error error) ∨ rename policy uri = .ok uri

variable {policy : ParameterPolicy} {uri next text : Text}

theorem rename_of_refused {error : ConnectionError}
    (refused : configuration policy (.text uri) = .error error) :
    rename policy uri = .error error := by
  rw [rename, refused]
  rfl

theorem rename_of_read {found : Configuration Text}
    (read : configuration policy (.text uri) = .ok found) :
    rename policy uri = .ok found.displayName := by
  rw [rename, read]
  rfl

theorem rename_eq_ok_iff : rename policy uri = .ok next ↔
    ∃ sources, HasSources uri sources ∧ next = (sources.configuration policy).displayName := by
  constructor
  · intro named
    cases read : configuration policy (.text uri) with
    | error error => cases named.symm.trans (rename_of_refused read)
    | ok found =>
        obtain ⟨sources, has, rfl⟩ := configuration_eq_ok_iff.mp read
        exact ⟨sources, has, Except.ok.inj (named.symm.trans (rename_of_read read))⟩
  · intro given
    obtain ⟨sources, has, same⟩ := given
    rw [same, rename_of_read (has.configuration_eq policy)]

theorem renamed_succ_eq_ok_iff {rounds : Nat} : renamed policy (rounds + 1) uri = .ok text ↔
    ∃ next, rename policy uri = .ok next ∧ renamed policy rounds next = .ok text := by
  rw [renamed]
  cases rename policy uri with
  | error error => simp [bind, Except.bind]
  | ok next => simp [bind, Except.bind]

theorem renamed_add_eq_ok_iff {rounds more : Nat} : renamed policy (rounds + more) uri = .ok text ↔
    ∃ middle, renamed policy rounds uri = .ok middle ∧ renamed policy more middle = .ok text := by
  induction rounds generalizing uri with
  | zero => simp [renamed]
  | succ rounds ih =>
      rw [Nat.succ_add, renamed_succ_eq_ok_iff]
      simp only [ih, renamed_succ_eq_ok_iff]
      constructor
      · intro given
        obtain ⟨next, first, middle, before, after⟩ := given
        exact ⟨middle, ⟨next, first, before⟩, after⟩
      · intro given
        obtain ⟨middle, ⟨next, first, before⟩, after⟩ := given
        exact ⟨next, first, middle, before, after⟩

/-- The chain of names holds the configurations of a text, of its name, of the name of that name, and
so on up to the first that fails. -/
theorem getElem?_nameChain {rounds index : Nat}
    {result : Except ConnectionError (Configuration Text)} :
    (nameChain policy rounds (.text uri))[index]? = some result ↔
      index < rounds ∧ ∃ text, renamed policy index uri = .ok text ∧
        configuration policy (.text text) = result := by
  induction rounds generalizing uri index with
  | zero => simp [nameChain]
  | succ rounds ih =>
      rw [nameChain]
      cases read : configuration policy (.text uri) with
      | error error =>
          cases index with
          | zero => simp [renamed, read]
          | succ index => simp [renamed_succ_eq_ok_iff, rename, read, Except.map]
      | ok found =>
          cases index with
          | zero => simp [renamed, read]
          | succ index => simp [renamed_succ_eq_ok_iff, rename, read, Except.map, ih]

/-- A settled text does not change any more. -/
theorem Settled.renamed_eq (settled : Settled policy uri) {rounds : Nat}
    (found : renamed policy rounds uri = .ok text) : text = uri := by
  induction rounds with
  | zero => exact (Except.ok.inj found).symm
  | succ rounds ih =>
      obtain ⟨next, first, later⟩ := renamed_succ_eq_ok_iff.mp found
      rcases settled with ⟨error, refused⟩ | fixed
      · cases first.symm.trans (rename_of_refused refused)
      · obtain rfl := Except.ok.inj (fixed.symm.trans first)
        exact ih later

end ConnectionUri.Connection

/-!
## Names that settle
-/

namespace ConnectionUri.Uri

theorem Spelled.forall_of_not_mem {allowed : Char → Bool} {text : Text}
    (spelled : Spelled allowed text) (plain : '%' ∉ text) :
    ∀ char ∈ text, allowed char = true := by
  induction spelled with
  | nil => simp
  | char permitted _ ih =>
      intro other member
      rcases List.mem_cons.mp member with rfl | member
      · exact permitted
      · exact ih (fun percent => plain (List.mem_cons_of_mem _ percent)) other member
  | escape _ _ _ _ => exact absurd List.mem_cons_self plain

end ConnectionUri.Uri

namespace ConnectionUri.Configuration

theorem mem_displayName {configuration : Configuration Text} {username : Text} {char : Char}
    (found : configuration.get? userName = some username) (member : char ∈ username) :
    char ∈ configuration.displayName := by
  have part : char ∈ namePart [] (configuration.get? userName) ['@'] := by
    rw [found]
    cases username with
    | nil => cases member
    | cons first rest => exact List.mem_append_left ['@'] member
  rw [displayName]
  simp only [List.mem_append]
  exact .inl (.inl (.inl (.inr part)))

end ConnectionUri.Configuration

namespace ConnectionUri.Connection

open Uri

variable {policy : ParameterPolicy} {uri : Text} {sources : Sources}

theorem refused_of_blank (blank : ' ' ∈ uri) :
    ∃ error, configuration policy (.text uri) = .error error := by
  cases read : configuration policy (.text uri) with
  | error error => exact ⟨error, rfl⟩
  | ok found =>
      obtain ⟨sources, has, -⟩ := configuration_eq_ok_iff.mp read
      obtain ⟨legal, -, -⟩ := decompose_eq_ok_iff.mp has.decomposed
      rw [← join_split uri] at blank
      rcases Split.mem_join_trimmed blank with inside | ⟨newline, -⟩
      · exact absurd (legal.isUriChar ' ' inside) (by decide)
      · exact absurd newline (by decide)

namespace Sources

variable (noPairs : sources.pairs = [])
include noPairs

theorem not_hasParameter (policy : ParameterPolicy) (name : Text) :
    ¬ sources.HasParameter policy name := by
  simp [HasParameter, noPairs]

theorem get?_userName (policy : ParameterPolicy) :
    (sources.configuration policy).get? userName = UserInfo.nonempty sources.username := by
  have noPassword : userName ≠ passwordName := by decide
  have noHost : userName ≠ hostName := by decide
  have noPort : userName ≠ portName := by decide
  simp [get?_configuration, noPairs, noPassword, noHost, noPort]

end Sources

theorem isHost_orDefault {components : Components} (decomposed : decompose uri = .ok components) :
    orDefault defaultHost components.host ≠ [] ∧ IsHost (orDefault defaultHost components.host) := by
  obtain ⟨-, -, rfl⟩ := decompose_eq_ok_iff.mp decomposed
  have ofDefault : defaultHost ≠ [] ∧ IsHost defaultHost :=
    ⟨by decide, .name ((isSpelled_iff (by decide)).mp (by decide))⟩
  rw [Components.ofSplit]
  cases found : serverOf? (split uri) with
  | none => exact ofDefault
  | some server =>
      have legal := (serverOf?_eq_some_iff.mp found).1.host
      rw [Option.map_some]
      cases written : server.host with
      | nil => exact ofDefault
      | cons first rest =>
          rw [written] at legal
          exact ⟨List.cons_ne_nil first rest, legal⟩

theorem isScheme_orDefault {components : Components} (decomposed : decompose uri = .ok components) :
    isScheme (Text.dropFinalNewline (orDefault defaultProtocol components.scheme)) = true := by
  obtain ⟨legal, -, rfl⟩ := decompose_eq_ok_iff.mp decomposed
  show isScheme (Text.dropFinalNewline (orDefault defaultProtocol (split uri).scheme)) = true
  cases present : (split uri).scheme with
  | none => decide
  | some scheme =>
      have trimmed := legal.scheme _ (Option.mem_map_of_mem _ present)
      have filled := ((firstMarks_split uri).scheme scheme present).1
      rw [orDefault_eq_getD (by simpa using filled)]
      exact trimmed

theorem isNumeral_positivePort {components : Components}
    (decomposed : decompose uri = .ok components) {port : Text}
    (found : positivePort components = some port) :
    Text.IsNumeral port ∧ port.length ≤ Text.digitLimit := by
  obtain ⟨-, short, rfl⟩ := decompose_eq_ok_iff.mp decomposed
  obtain ⟨number, value, positive, rfl⟩ := positivePort_eq_some_iff.mp found
  refine ⟨Text.isNumeral_decimal positive, ?_⟩
  have legal : IsPort ((serverOf? (split uri)).bind Server.port) := by
    intro digits present
    obtain ⟨server, isServer, written⟩ := Option.bind_eq_some_iff.mp present
    exact (serverOf?_eq_some_iff.mp isServer).1.port digits written
  have bound : (((serverOf? (split uri)).bind Server.port).getD []).length ≤ Text.digitLimit := by
    cases present : (serverOf? (split uri)).bind Server.port with
    | none => exact Nat.zero_le _
    | some digits => exact short digits present
  exact Nat.le_trans (decimal_suffix_of_portValue legal value positive).length_le bound

theorem isNameChar_of_mem_rawParts {components : Components}
    (decomposed : decompose uri = .ok components)
    (noPercent : '%' ∉ (UserInfo.rawParts (components.userInfo.getD [])).1) :
    ∀ char ∈ (UserInfo.rawParts (components.userInfo.getD [])).1, isNameChar char = true := by
  have spelled : Spelled isUserInfoChar (components.userInfo.getD []) := by
    cases present : components.userInfo with
    | none => exact .nil
    | some userInfo => exact decompose_userInfo_spelled decomposed userInfo present
  have ofName := (spelled.ofCut (show (':' == '%' || Text.isHexDigit ':') = false by decide)).1
  rw [UserInfo.rawParts_eq] at noPercent ⊢
  intro char member
  have permitted := ofName.forall_of_not_mem noPercent char member
  have noColon : char ≠ ':' := ne_of_mem_of_not_mem member (Text.not_mem_cut ':' _)
  simpa [isUserInfoChar, noColon] using permitted

/-- Without a query and with a user name that stands for itself a configuration is plain. -/
theorem HasSources.plain (has : HasSources uri sources) (noPairs : sources.pairs = [])
    (literal : ∀ char ∈ sources.username, isNameChar char = true ∧ char ≠ '+')
    (policy : ParameterPolicy) : (sources.configuration policy).Plain where
  host := by
    obtain ⟨filled, legal⟩ := isHost_orDefault has.decomposed
    exact ⟨_, Sources.get?_hostName (Sources.not_hasParameter noPairs policy hostName), filled, legal⟩
  port := by
    intro port found _
    rw [Sources.get?_portName (Sources.not_hasParameter noPairs policy portName)] at found
    exact isNumeral_positivePort has.decomposed found
  username := by
    intro username found
    rw [Sources.get?_userName noPairs policy, nonempty_eq_some_iff] at found
    rw [found.2]
    exact literal

/-- The name of a text without a query and without an escape in its user name is settled. -/
theorem HasSources.settled (has : HasSources uri sources) (noQuery : sources.components.query = none)
    (noPercent : '%' ∉ (UserInfo.rawParts (sources.components.userInfo.getD [])).1)
    (policy : ParameterPolicy) : Settled policy (sources.configuration policy).displayName := by
  have noPairs : sources.pairs = [] := by
    have pairs := has.pairs
    rw [noQuery, Option.getD_none, Query.segments_nil] at pairs
    exact (Except.ok.inj pairs).symm
  have found := Sources.get?_userName noPairs policy
  rcases (Percent.encodes_of_decode has.username).eq_or_blank_mem noPercent with
    ⟨same, noPlus⟩ | blank
  · -- The user name is what was written, so the name is read back.
    have literal : ∀ char ∈ sources.username, isNameChar char = true ∧ char ≠ '+' := by
      rw [same]
      intro char member
      exact ⟨isNameChar_of_mem_rawParts has.decomposed noPercent char member,
        ne_of_mem_of_not_mem member noPlus⟩
    have plain := has.plain noPairs literal policy
    have protocol : isScheme (Text.dropFinalNewline (sources.configuration policy).protocol) = true :=
      isScheme_orDefault has.decomposed
    refine .inr ?_
    rw [rename, plain.configuration_displayName protocol policy]
    exact congrArg Except.ok (Configuration.displayName_congr rfl fun name member =>
      Configuration.shown?_shownEntries _ member)
  · have filled : sources.username ≠ [] := List.ne_nil_of_mem blank
    rw [nonempty_eq_some_iff.mpr ⟨filled, rfl⟩] at found
    exact .inl (refused_of_blank (Configuration.mem_displayName found blank))

end ConnectionUri.Connection

/-!
## Signs
-/

namespace ConnectionUri.Connection

open Percent

variable {policy : ParameterPolicy} {uri next text : Text}

theorem length_rename_le (named : rename policy uri = .ok next) :
    next.length ≤ uri.length + nameFrame.length := by
  obtain ⟨sources, has, rfl⟩ := rename_eq_ok_iff.mp named
  have weights := has.countP_displayName_le shrinks_all policy
  simp only [List.countP_true] at weights
  omega

/-- A round leaves fewer signs, or it makes a settled name. -/
theorem signs_rename_lt_or_settled (named : rename policy uri = .ok next) :
    signs next < signs uri ∨ Settled policy next := by
  obtain ⟨sources, has, rfl⟩ := rename_eq_ok_iff.mp named
  have weights := has.countP_displayName_le shrinks_signs policy
  have frame : nameFrame.countP isSign = 0 := by decide
  rw [frame, Nat.add_zero] at weights
  by_cases escaped : '%' ∈ (UserInfo.rawParts (sources.components.userInfo.getD [])).1
  · have positive := List.count_pos_iff.mpr escaped
    unfold signs
    exact .inl (by omega)
  · cases query : sources.components.query with
    | none => exact .inr (has.settled query escaped policy)
    | some written =>
        have mark : ['?'].countP isSign = 1 := by decide
        rw [query, Option.map_some, Option.toList_some, mark] at weights
        unfold signs
        exact .inl (by omega)

end ConnectionUri.Connection

/-!
## The end of the rounds
-/

namespace ConnectionUri.Connection

open Percent

variable {policy : ParameterPolicy} {uri text : Text}

theorem exists_settled (policy : ParameterPolicy) (uri : Text) :
    ∃ rounds ≤ signs uri + 1, ∃ last,
      renamed policy rounds uri = .ok last ∧ Settled policy last := by
  induction count : signs uri using Nat.strongRecOn generalizing uri with
  | ind count ih =>
      cases read : configuration policy (.text uri) with
      | error error => exact ⟨0, Nat.zero_le _, uri, rfl, .inl ⟨error, read⟩⟩
      | ok found =>
          have named := rename_of_read read
          rcases signs_rename_lt_or_settled named with fewer | settled
          · obtain ⟨rounds, bound, last, later, settled⟩ := ih _ (by omega) found.displayName rfl
            exact ⟨rounds + 1, by omega, last, renamed_succ_eq_ok_iff.mpr ⟨_, named, later⟩, settled⟩
          · exact ⟨1, by omega, _, renamed_succ_eq_ok_iff.mpr ⟨_, named, rfl⟩, settled⟩

theorem length_renamed_le {rounds : Nat} (found : renamed policy rounds uri = .ok text) :
    text.length ≤ uri.length + rounds * nameFrame.length := by
  induction rounds generalizing uri with
  | zero =>
      obtain rfl := Except.ok.inj found
      exact Nat.le_add_right _ _
  | succ rounds ih =>
      obtain ⟨next, named, later⟩ := renamed_succ_eq_ok_iff.mp found
      have first := length_rename_le named
      have rest := ih later
      rw [Nat.succ_mul]
      omega

/-- A text that comes back after a period comes back after several. -/
theorem renamed_periods {period : Nat} (again : renamed policy period text = .ok text) (times : Nat) :
    renamed policy (times * period) text = .ok text := by
  induction times with
  | zero =>
      rw [Nat.zero_mul]
      rfl
  | succ times ih =>
      rw [Nat.succ_mul]
      exact renamed_add_eq_ok_iff.mpr ⟨text, ih, again⟩

/-- A text that comes back is its own name. -/
theorem rename_of_cycle {period : Nat} (again : renamed policy (period + 1) text = .ok text) :
    rename policy text = .ok text := by
  obtain ⟨rounds, -, last, found, settled⟩ := exists_settled policy text
  -- After as many periods as it takes to settle, the text is back and settled.
  have back := renamed_periods again rounds
  rw [Nat.mul_succ, Nat.add_comm] at back
  obtain ⟨middle, first, later⟩ := renamed_add_eq_ok_iff.mp back
  obtain rfl := Except.ok.inj (first.symm.trans found)
  obtain rfl := settled.renamed_eq later
  rcases settled with ⟨error, refused⟩ | fixed
  · obtain ⟨next, named, -⟩ := renamed_succ_eq_ok_iff.mp again
    cases named.symm.trans (rename_of_refused refused)
  · exact fixed

theorem length_renamed_le_of_settled {needed bound : Nat} {last : Text}
    (found : renamed policy needed uri = .ok last) (settled : Settled policy last)
    (within : needed ≤ bound) {rounds : Nat} (here : renamed policy rounds uri = .ok text) :
    text.length ≤ uri.length + bound * nameFrame.length := by
  rcases Nat.le_total rounds needed with early | late
  · have grown := length_renamed_le here
    have few := Nat.mul_le_mul_right nameFrame.length (Nat.le_trans early within)
    omega
  · obtain ⟨more, rfl⟩ := Nat.exists_eq_add_of_le late
    obtain ⟨middle, first, later⟩ := renamed_add_eq_ok_iff.mp here
    obtain rfl := Except.ok.inj (first.symm.trans found)
    obtain rfl := settled.renamed_eq later
    have grown := length_renamed_le found
    have few := Nat.mul_le_mul_right nameFrame.length within
    omega

/-- The chain of names of a text holds the configurations of its rounds of naming. These rounds end, no
later than there are signs in the text, and one, with a text that has no configuration or with one that
is its own name. A text that comes back is its own name already, and no name is longer than the text by
more than a frame for each of these rounds. -/
theorem renaming_settles (policy : ParameterPolicy) (uri : Text) :
    (∀ rounds index result, (nameChain policy rounds (.text uri))[index]? = some result ↔
      index < rounds ∧ ∃ text, renamed policy index uri = .ok text ∧
        configuration policy (.text text) = result) ∧
    (∃ rounds ≤ signs uri + 1, ∃ last,
      renamed policy rounds uri = .ok last ∧ Settled policy last) ∧
    (∀ rounds period text, renamed policy rounds uri = .ok text →
      renamed policy (rounds + (period + 1)) uri = .ok text → rename policy text = .ok text) ∧
    ∀ rounds text, renamed policy rounds uri = .ok text →
      text.length ≤ uri.length + (signs uri + 1) * nameFrame.length := by
  obtain ⟨needed, bound, last, found, settled⟩ := exists_settled policy uri
  refine ⟨fun _ _ _ => getElem?_nameChain, ⟨needed, bound, last, found, settled⟩, ?_, ?_⟩
  · intro rounds period text here again
    obtain ⟨middle, first, later⟩ := renamed_add_eq_ok_iff.mp again
    obtain rfl := Except.ok.inj (first.symm.trans here)
    exact rename_of_cycle later
  · intro rounds text here
    exact length_renamed_le_of_settled found settled bound here

private theorem eq_ok_of_toOption {α β : Type} {result : Except α β} {value : β}
    (found : result.toOption = some value) : result = .ok value := by
  cases result with
  | error error => cases found
  | ok other => exact congrArg Except.ok (Option.some.inj found)

/-- An escaped escape and a query in a query take three rounds, and the defaults then stay. -/
theorem renaming_settles_on_defaults :
    renamed Settings.default.policy 3 "//%2540@h/?hostname=a?port=1".toList =
        .ok "ssh://localhost/".toList ∧
      renamed Settings.default.policy (3 + (0 + 1)) "//%2540@h/?hostname=a?port=1".toList =
        .ok "ssh://localhost/".toList ∧
      rename Settings.default.policy "ssh://localhost/".toList = .ok "ssh://localhost/".toList ∧
      ∃ rounds ≤ 5, ∃ last,
        renamed Settings.default.policy rounds "//%2540@h/?hostname=a?port=1".toList = .ok last ∧
          Settled Settings.default.policy last := by
  have third : renamed Settings.default.policy 3 "//%2540@h/?hostname=a?port=1".toList =
      .ok "ssh://localhost/".toList := eq_ok_of_toOption (by decide +kernel)
  have fourth : renamed Settings.default.policy (3 + (0 + 1))
      "//%2540@h/?hostname=a?port=1".toList = .ok "ssh://localhost/".toList :=
    eq_ok_of_toOption (by decide +kernel)
  have few : signs "//%2540@h/?hostname=a?port=1".toList = 4 := by decide
  obtain ⟨-, ends, cycles, -⟩ :=
    renaming_settles Settings.default.policy "//%2540@h/?hostname=a?port=1".toList
  rw [few] at ends
  exact ⟨third, fourth, cycles 3 0 _ third fourth, ends⟩

end ConnectionUri.Connection
