import ConnectionUri.Proofs.Uri.Grammar
import ConnectionUri.Proofs.Uri.Splitting

/-!
# Decomposition and the grammar

A text decomposes exactly when its components, without one line feed at the end of each, are legal
and its port has no more digits than are ever converted to a number. `decompose_eq_ok_iff` says
what is returned then, and `decompose_ok_iff_grammar` restates it for texts of one line against the
grammar alone.
-/

set_option autoImplicit false

/-!
## The checks of the components
-/

namespace ConnectionUri.Uri

theorem Authority.ofText?_eq_server_iff {authority : Text} {server : Server} :
    Authority.ofText? authority = some (.server server) ↔
      server.Legal ∧ server.join = Text.dropFinalNewline authority := by
  rw [← server?_eq_some_iff, Authority.ofText?]
  cases server? (Text.dropFinalNewline authority) with
  | some other => simp
  | none => simp

theorem Authority.ofText?_isSome_iff {authority : Text} :
    (Authority.ofText? authority).isSome = true ↔ IsAuthority (Text.dropFinalNewline authority) := by
  have registry : isSpelled isRegistryChar (Text.dropFinalNewline authority) = true ↔
      Spelled isRegistryChar (Text.dropFinalNewline authority) := isSpelled_iff (by decide)
  unfold Authority.ofText? IsAuthority
  cases found : server? (Text.dropFinalNewline authority) with
  | some server =>
      simp only [Option.isSome_some, true_iff]
      exact .inl ⟨server, server?_sound found⟩
  | none =>
      have noServer : ¬ ∃ server : Server,
          server.Legal ∧ server.join = Text.dropFinalNewline authority := by
        rintro ⟨server, form⟩
        simp [server?_eq_some_iff.mpr form] at found
      simp only [noServer, false_or, ← registry]
      split <;> simp_all

theorem isLegal_iff {check : Text → Bool} {part : Option Text} :
    isLegal check part = true ↔ ∀ text ∈ part.map Text.dropFinalNewline, check text = true := by
  cases part <;> simp [isLegal]

theorem isLegal_isSpelled_iff {allowed : Char → Bool} (plain : allowed '%' = false)
    {part : Option Text} : isLegal (isSpelled allowed) part = true ↔
      ∀ text ∈ part.map Text.dropFinalNewline, Spelled allowed text := by
  simp only [isLegal_iff, isSpelled_iff plain]

private theorem complaint_eq_none_iff {check : Bool} {part : Part} {later : Option Part} :
    (if !check then some part else later) = none ↔ check = true ∧ later = none := by
  cases check <;> simp

theorem illegalPart?_eq_none_iff {parts : Split} :
    illegalPart? parts = none ↔ parts.trimmed.Legal := by
  unfold illegalPart?
  rw [complaint_eq_none_iff, complaint_eq_none_iff, complaint_eq_none_iff, complaint_eq_none_iff,
    isLegal_iff, isLegal_isSpelled_iff (by decide), isLegal_isSpelled_iff (by decide),
    isLegal_isSpelled_iff (by decide)]
  constructor
  · rintro ⟨scheme, path, query, fragment, accepted⟩
    refine ⟨scheme, ?_, path _ rfl, query, fragment⟩
    intro trimmed member
    obtain ⟨authority, present, rfl⟩ := Option.map_eq_some_iff.mp member
    simp only [present] at accepted
    rw [← Authority.ofText?_isSome_iff]
    cases found : Authority.ofText? authority with
    | none => simp [found] at accepted
    | some kind => rfl
  · intro legal
    refine ⟨legal.scheme, ?_, legal.query, legal.fragment, ?_⟩
    · rintro _ ⟨⟩
      exact legal.path
    · cases present : parts.authority with
      | none => rfl
      | some authority =>
          have trimmed : parts.trimmed.authority = some (Text.dropFinalNewline authority) := by
            simp [Split.trimmed, present]
          have accepted := Authority.ofText?_isSome_iff.mpr (legal.authority _ trimmed)
          simp [Option.isNone_eq_false_iff.mpr accepted]

theorem serverOf?_eq_some_iff {parts : Split} {server : Server} :
    serverOf? parts = some server ↔
      server.Legal ∧ parts.trimmed.authority = some server.join := by
  unfold serverOf? Split.trimmed
  cases parts.authority with
  | none => simp
  | some authority =>
      have form : _ ↔ server.Legal ∧ server.join = Text.dropFinalNewline authority :=
        Authority.ofText?_eq_server_iff
      simp only [Option.bind_some, Option.map_some, Option.some.injEq,
        eq_comm (b := server.join), ← form]
      cases Authority.ofText? authority with
      | none => simp
      | some kind => cases kind <;> simp

theorem serverOf?_eq_none_iff {parts : Split} :
    serverOf? parts = none ↔
      ∀ server : Server, server.Legal → parts.trimmed.authority ≠ some server.join := by
  rw [Option.eq_none_iff_forall_ne_some]
  simp only [ne_eq, serverOf?_eq_some_iff, not_and]

end ConnectionUri.Uri

/-!
## The three results of a decomposition
-/

namespace ConnectionUri.Uri

/-- The number that the digits of a port stand for; an absent or empty port stands for none. -/
def portValue : Option Text → Option Nat
  | none | some [] => none
  | some digits => some (Text.decimalValue digits)

/-- A port that is there has no more digits than are ever converted. -/
def IsShort (port : Option Text) : Prop := ∀ digits ∈ port, digits.length ≤ Text.digitLimit

theorem portNumber_of_short {port : Option Text} (short : IsShort port) :
    portNumber port = .ok (portValue port) := by
  match port with
  | none => rfl
  | some [] => rfl
  | some (digit :: more) =>
      have bound := short _ rfl
      simp only [portNumber, portValue]
      rw [if_neg (by omega)]

theorem portNumber_eq_error_iff {port : Option Text} {error : PortTooLong} :
    portNumber port = .error error ↔
      ∃ digits, port = some digits ∧ Text.digitLimit < digits.length ∧ error = ⟨digits.length⟩ := by
  match port with
  | none => simp [portNumber]
  | some [] => simp [portNumber]
  | some (digit :: more) =>
      simp only [portNumber, Option.some.injEq, exists_eq_left']
      by_cases long : Text.digitLimit < (digit :: more).length
      · rw [if_pos long]
        simp only [Except.error.injEq, long, true_and, eq_comm]
      · rw [if_neg long]
        simp only [reduceCtorEq, long, false_and]

def Components.ofSplit (parts : Split) : Components where
  scheme := parts.scheme
  userInfo := (serverOf? parts).bind Server.userInfo
  host := (serverOf? parts).map Server.host
  port := portValue ((serverOf? parts).bind Server.port)
  query := parts.query

theorem decompose_of_illegal {text : Text} {part : Part}
    (illegal : illegalPart? (split text) = some part) :
    decompose text = .error (.syntaxError (.illegal part text)) := by
  simp only [decompose, illegal]

theorem decompose_of_short {text : Text} (legal : (split text).trimmed.Legal)
    (short : IsShort ((serverOf? (split text)).bind Server.port)) :
    decompose text = .ok (.ofSplit (split text)) := by
  simp only [decompose, illegalPart?_eq_none_iff.mpr legal, portNumber_of_short short]
  rfl

theorem decompose_of_long {text : Text} {error : PortTooLong}
    (legal : (split text).trimmed.Legal)
    (long : portNumber ((serverOf? (split text)).bind Server.port) = .error error) :
    decompose text = .error (.portTooLong error) := by
  simp only [decompose, illegalPart?_eq_none_iff.mpr legal, long]

/-- The split of a text decides which of the three results its decomposition has. -/
theorem decompose_cases (text : Text) :
    (¬ (split text).trimmed.Legal ∧
      ∃ part, decompose text = .error (.syntaxError (.illegal part text))) ∨
    ((split text).trimmed.Legal ∧ IsShort ((serverOf? (split text)).bind Server.port) ∧
      decompose text = .ok (.ofSplit (split text))) ∨
    ((split text).trimmed.Legal ∧ ∃ digits,
      (serverOf? (split text)).bind Server.port = some digits ∧
      Text.digitLimit < digits.length ∧
      decompose text = .error (.portTooLong ⟨digits.length⟩)) := by
  cases checked : illegalPart? (split text) with
  | some part =>
      refine .inl ⟨fun legal => ?_, part, decompose_of_illegal checked⟩
      rw [illegalPart?_eq_none_iff.mpr legal] at checked
      cases checked
  | none =>
      have legal := illegalPart?_eq_none_iff.mp checked
      cases converted : portNumber ((serverOf? (split text)).bind Server.port) with
      | error error =>
          obtain ⟨digits, present, long, rfl⟩ := portNumber_eq_error_iff.mp converted
          exact .inr (.inr ⟨legal, digits, present, long, decompose_of_long legal converted⟩)
      | ok number =>
          have short : IsShort ((serverOf? (split text)).bind Server.port) := by
            intro digits present
            apply Nat.le_of_not_lt
            intro long
            rw [portNumber_eq_error_iff.mpr ⟨digits, present, long, rfl⟩] at converted
            cases converted
          exact .inr (.inl ⟨legal, short, decompose_of_short legal short⟩)

theorem decompose_eq_ok_iff {text : Text} {components : Components} :
    decompose text = .ok components ↔ (split text).trimmed.Legal ∧
      IsShort ((serverOf? (split text)).bind Server.port) ∧ components = .ofSplit (split text) := by
  constructor
  · intro decomposed
    rcases decompose_cases text with ⟨-, part, refused⟩ | ⟨legal, short, accepted⟩ |
      ⟨-, digits, -, -, refused⟩
    · simp [refused] at decomposed
    · rw [accepted] at decomposed
      exact ⟨legal, short, (Except.ok.inj decomposed).symm⟩
    · simp [refused] at decomposed
  · rintro ⟨legal, short, rfl⟩
    exact decompose_of_short legal short

theorem decompose_userInfo_spelled {text : Text} {components : Components}
    (accepted : decompose text = .ok components) :
    ∀ userInfo ∈ components.userInfo, Spelled isUserInfoChar userInfo := by
  obtain ⟨-, -, rfl⟩ := decompose_eq_ok_iff.mp accepted
  intro userInfo present
  obtain ⟨server, found, written⟩ := Option.bind_eq_some_iff.mp present
  exact (serverOf?_eq_some_iff.mp found).1.userInfo userInfo written

theorem decompose_eq_syntaxError_iff {text : Text} :
    (∃ part, decompose text = .error (.syntaxError (.illegal part text))) ↔
      ¬ (split text).trimmed.Legal := by
  constructor
  · rintro ⟨part, refused⟩
    rcases decompose_cases text with ⟨illegal, -⟩ | ⟨-, -, accepted⟩ | ⟨-, digits, -, -, long⟩
    · exact illegal
    · simp [accepted] at refused
    · simp [long] at refused
  · intro illegal
    rcases decompose_cases text with ⟨-, refused⟩ | ⟨legal, -⟩ | ⟨legal, -⟩
    · exact refused
    · exact absurd legal illegal
    · exact absurd legal illegal

end ConnectionUri.Uri

/-!
## Line feeds at the ends of components
-/

namespace ConnectionUri.Uri

/-- The components that are there, in the order of the text. -/
def Split.components (parts : Split) : List Text :=
  parts.scheme.toList ++ parts.authority.toList ++ [parts.path] ++ parts.query.toList ++
    parts.fragment.toList

/-- Some component ends in a line feed. -/
def Split.EndsInNewline (parts : Split) : Prop := ∃ part ∈ parts.components, ['\n'] <:+ part

namespace Split

variable {parts : Split}

theorem mem_join_of_mem_components {part : Text} {char : Char} (present : part ∈ parts.components)
    (member : char ∈ part) : char ∈ parts.join := by
  obtain ⟨scheme, authority, path, query, fragment⟩ := parts
  simp only [components, List.mem_append, Option.mem_toList, List.mem_singleton] at present
  rcases present with (((rfl | rfl) | rfl) | rfl) | rfl <;>
    simp [join, closed, marked, member]

theorem trimmed_eq_self (ended : ¬ parts.EndsInNewline) : parts.trimmed = parts := by
  have kept : ∀ part ∈ parts.components, Text.dropFinalNewline part = part := fun part present =>
    Text.dropFinalNewline_of_not_suffix fun newline => ended ⟨part, present, newline⟩
  have optional : ∀ part : Option Text, (∀ text ∈ part, text ∈ parts.components) →
      part.map Text.dropFinalNewline = part := by
    intro part contained
    cases part with
    | none => rfl
    | some text => exact congrArg some (kept text (contained text rfl))
  obtain ⟨scheme, authority, path, query, fragment⟩ := parts
  simp only [trimmed, mk.injEq]
  refine ⟨optional scheme ?_, optional authority ?_, kept path ?_, optional query ?_,
    optional fragment ?_⟩ <;> simp +contextual [components]

theorem not_endsInNewline_of_not_mem (oneLine : '\n' ∉ parts.join) : ¬ parts.EndsInNewline := by
  rintro ⟨part, present, front, rfl⟩
  exact oneLine (mem_join_of_mem_components present (List.mem_append_right _ List.mem_cons_self))

end Split

end ConnectionUri.Uri

/-!
## Texts of one line
-/

namespace ConnectionUri.Uri

/-- The port of the server form, if there is one, has no more digits than are ever converted. -/
def Split.HasShortPort (parts : Split) : Prop :=
  ∀ server : Server, server.Legal → parts.authority = some server.join → IsShort server.port

/-- The raw components are those of a split: the scheme and the query as they stand, the pieces of
the server form, and nothing in their place without one. -/
structure Components.Reads (components : Components) (parts : Split) : Prop where
  scheme : components.scheme = parts.scheme
  query : components.query = parts.query
  server : ∀ server : Server, server.Legal → parts.authority = some server.join →
    components.userInfo = server.userInfo ∧ components.host = some server.host ∧
      components.port = portValue server.port
  noServer : (∀ server : Server, server.Legal → parts.authority ≠ some server.join) →
    components.userInfo = none ∧ components.host = none ∧ components.port = none

theorem Components.ofSplit_reads {parts : Split} (kept : parts.trimmed = parts) :
    (Components.ofSplit parts).Reads parts where
  scheme := rfl
  query := rfl
  server := by
    intro server legal written
    have found : serverOf? parts = some server :=
      serverOf?_eq_some_iff.mpr ⟨legal, by rw [kept, written]⟩
    simp [ofSplit, found]
  noServer := by
    intro missing
    have found : serverOf? parts = none :=
      serverOf?_eq_none_iff.mpr fun server legal => by rw [kept]; exact missing server legal
    simp [ofSplit, found, portValue]

theorem Split.hasShortPort_iff {parts : Split} (kept : parts.trimmed = parts) :
    parts.HasShortPort ↔ IsShort ((serverOf? parts).bind Server.port) := by
  constructor
  · intro short digits present
    obtain ⟨server, found, port⟩ := Option.bind_eq_some_iff.mp present
    obtain ⟨legal, written⟩ := serverOf?_eq_some_iff.mp found
    rw [kept] at written
    exact short server legal written digits port
  · intro short server legal written digits port
    have found : serverOf? parts = some server :=
      serverOf?_eq_some_iff.mpr ⟨legal, by rw [kept, written]⟩
    exact short digits (by rw [found]; exact port)

/-- A text of one line whose port is short decomposes exactly when its components at the first marks
are legal. What is returned are the raw pieces of that one split and of the one server form of its
authority. -/
theorem decompose_ok_iff_grammar {text : Text} (oneLine : '\n' ∉ text)
    (short : ∀ parts, FirstMarks text parts → parts.HasShortPort) :
    ((∃ components, decompose text = .ok components) ↔
      ∃ parts, FirstMarks text parts ∧ parts.Legal) ∧
    ∀ components, decompose text = .ok components →
      ∃ parts, FirstMarks text parts ∧ parts.Legal ∧ parts.join = text ∧ components.Reads parts ∧
        (∀ other, FirstMarks text other → other = parts) ∧
        ∀ left right : Server, left.Legal → right.Legal → parts.authority = some left.join →
          parts.authority = some right.join → left = right := by
  have kept : (split text).trimmed = split text := by
    apply Split.trimmed_eq_self
    apply Split.not_endsInNewline_of_not_mem
    rwa [join_split]
  have shortPort := (Split.hasShortPort_iff kept).mp (short _ (firstMarks_split text))
  constructor
  · constructor
    · rintro ⟨components, decomposed⟩
      obtain ⟨legal, -, -⟩ := decompose_eq_ok_iff.mp decomposed
      exact ⟨split text, firstMarks_split text, kept ▸ legal⟩
    · rintro ⟨parts, splits, legal⟩
      obtain rfl := splits.eq_split
      exact ⟨_, decompose_of_short (kept.symm ▸ legal) shortPort⟩
  · intro components decomposed
    obtain ⟨legal, -, rfl⟩ := decompose_eq_ok_iff.mp decomposed
    refine ⟨split text, firstMarks_split text, kept ▸ legal, join_split text,
      Components.ofSplit_reads kept, fun other splits => splits.eq_split.symm, ?_⟩
    intro left right leftLegal rightLegal leftWritten rightWritten
    exact leftLegal.join_injective rightLegal
      (Option.some.inj (leftWritten.symm.trans rightWritten))

/-- An address literal, a colon in the password, an empty path segment and an at sign in the query
leave one split. -/
theorem decompose_address_literal :
    '\n' ∉ "ssh://al:p:w@[::1]:0022/a//b?x=@#f".toList ∧
      (∀ parts, FirstMarks "ssh://al:p:w@[::1]:0022/a//b?x=@#f".toList parts →
        parts.HasShortPort) ∧
      ∃ parts, FirstMarks "ssh://al:p:w@[::1]:0022/a//b?x=@#f".toList parts ∧ parts.Legal := by
  have oneLine : '\n' ∉ "ssh://al:p:w@[::1]:0022/a//b?x=@#f".toList := by decide
  have short : ∀ parts, FirstMarks "ssh://al:p:w@[::1]:0022/a//b?x=@#f".toList parts →
      parts.HasShortPort := by
    intro parts splits
    obtain rfl := splits.eq_split
    refine (Split.hasShortPort_iff rfl).mpr ?_
    intro digits present
    cases present
    decide
  exact ⟨oneLine, short, (decompose_ok_iff_grammar oneLine short).1.mp ⟨_, rfl⟩⟩

end ConnectionUri.Uri
