import ConnectionUri.Uri.Components

/-!
# The grammar of URI references

The texts of each component and the two forms of an authority, written as relations apart from the
checks that run. `isSpelled_iff`, `hostPort?_eq_some_iff` and `server?_eq_some_iff` say that the
checks accept exactly these texts, and the last two that a text is read in one way only.
-/

set_option autoImplicit false

/-!
## Spelled texts
-/

namespace ConnectionUri.Uri

/-- The texts written with the characters of a class and with escapes. -/
inductive Spelled (allowed : Char → Bool) : Text → Prop where
  | nil : Spelled allowed []
  | char {char : Char} {rest : Text} :
      allowed char = true → Spelled allowed rest → Spelled allowed (char :: rest)
  | escape {high low : Char} {rest : Text} :
      Text.isHexDigit high = true → Text.isHexDigit low = true → Spelled allowed rest →
      Spelled allowed ('%' :: high :: low :: rest)

theorem isSpelled_cons {allowed : Char → Bool} {char : Char} (plain : char ≠ '%') (rest : Text) :
    isSpelled allowed (char :: rest) = (allowed char && isSpelled allowed rest) := by
  rw [isSpelled.eq_def]
  split
  · next same => cases same
  · next high low tail same => exact absurd (List.cons.inj same).1 plain
  · next head tail _ same => rw [(List.cons.inj same).1, (List.cons.inj same).2]

/-- The check of a class without the percent sign accepts exactly the spelled texts. -/
theorem isSpelled_iff {allowed : Char → Bool} (plain : allowed '%' = false) {text : Text} :
    isSpelled allowed text = true ↔ Spelled allowed text := by
  constructor
  · intro accepted
    induction text using isSpelled.induct with
    | case1 => exact .nil
    | case2 high low rest ih =>
        simp only [isSpelled, Bool.and_eq_true] at accepted
        exact .escape accepted.1.1 accepted.1.2 (ih accepted.2)
    | case3 char rest noEscape ih =>
        rw [isSpelled.eq_3 _ _ _ noEscape, Bool.and_eq_true] at accepted
        exact .char accepted.1 (ih accepted.2)
  · intro spelled
    induction spelled with
    | nil => rfl
    | @char char rest permitted _ ih =>
        have differs : char ≠ '%' := by
          rintro rfl
          simp [plain] at permitted
        rw [isSpelled_cons differs, permitted, ih]
        rfl
    | escape high low _ ih => simp [isSpelled, high, low, ih]

namespace Spelled

variable {allowed : Char → Bool} {text : Text}

theorem append {left right : Text} (before : Spelled allowed left)
    (after : Spelled allowed right) : Spelled allowed (left ++ right) := by
  induction before with
  | nil => exact after
  | char permitted _ ih => exact .char permitted ih
  | escape high low _ ih => exact .escape high low ih

/-- No escape reaches across a mark that is neither a percent sign nor a hexadecimal digit. -/
theorem of_append_cons {mark : Char} {left right : Text}
    (single : (mark == '%' || Text.isHexDigit mark) = false)
    (whole : Spelled allowed (left ++ mark :: right)) :
    Spelled allowed left ∧ Spelled allowed right := by
  simp only [Bool.or_eq_false_iff, beq_eq_false_iff_ne, ne_eq] at single
  generalize written : left ++ mark :: right = text at whole
  induction whole generalizing left with
  | nil => simp at written
  | char permitted rest ih =>
      cases left with
      | nil =>
          obtain ⟨rfl, rfl⟩ := List.cons.inj written
          exact ⟨.nil, rest⟩
      | cons first more =>
          simp only [List.cons_append, List.cons.injEq] at written
          obtain ⟨rfl, written⟩ := written
          exact ⟨.char permitted (ih written).1, (ih written).2⟩
  | escape high low rest ih =>
      match left with
      | [] => exact absurd (List.cons.inj written).1 single.1
      | [_] =>
          simp only [List.cons_append, List.nil_append, List.cons.injEq] at written
          rw [written.2.1, high] at single
          cases single.2
      | [_, _] =>
          simp only [List.cons_append, List.nil_append, List.cons.injEq] at written
          rw [written.2.2.1, low] at single
          cases single.2
      | first :: second :: third :: more =>
          simp only [List.cons_append, List.cons.injEq] at written
          obtain ⟨rfl, rfl, rfl, written⟩ := written
          exact ⟨.escape high low (ih written).1, (ih written).2⟩

theorem mono {wider : Char → Bool} (spelled : Spelled allowed text)
    (contained : ∀ char, allowed char = true → wider char = true) : Spelled wider text := by
  induction spelled with
  | nil => exact .nil
  | char permitted _ ih => exact .char (contained _ permitted) ih
  | escape high low _ ih => exact .escape high low ih

theorem of_forall (permitted : ∀ char ∈ text, allowed char = true) : Spelled allowed text := by
  induction text with
  | nil => exact .nil
  | cons char rest ih =>
      exact .char (permitted char List.mem_cons_self)
        (ih fun other member => permitted other (List.mem_cons_of_mem _ member))

/-- A spelled text holds characters of its class, percent signs and hexadecimal digits only. -/
theorem mem {char : Char} (spelled : Spelled allowed text) (member : char ∈ text) :
    allowed char = true ∨ char = '%' ∨ Text.isHexDigit char = true := by
  induction spelled with
  | nil => cases member
  | char permitted _ ih =>
      rcases List.mem_cons.mp member with rfl | member
      · exact .inl permitted
      · exact ih member
  | escape high low _ ih =>
      simp only [List.mem_cons] at member
      rcases member with rfl | rfl | rfl | member
      · exact .inr (.inl rfl)
      · exact .inr (.inr high)
      · exact .inr (.inr low)
      · exact ih member

/-- A mark outside the class occurs in no spelled text. -/
theorem not_mem {mark : Char} (spelled : Spelled allowed text)
    (outside : (allowed mark || mark == '%' || Text.isHexDigit mark) = false) : mark ∉ text := by
  intro member
  simp only [Bool.or_eq_false_iff, beq_eq_false_iff_ne, ne_eq] at outside
  rcases spelled.mem member with permitted | percent | digit
  · simp [permitted] at outside
  · exact outside.1.2 percent
  · simp [digit] at outside

/-- A class without the line feed spells texts without one at their end. -/
theorem dropFinalNewline_eq (spelled : Spelled allowed text) (outside : allowed '\n' = false) :
    Text.dropFinalNewline text = text := by
  apply Text.dropFinalNewline_of_not_suffix
  intro ended
  have absent : '\n' ∉ text := by
    apply spelled.not_mem
    rw [outside]
    rfl
  exact absent (ended.subset List.mem_cons_self)

end Spelled

end ConnectionUri.Uri

/-!
## Server authorities
-/

namespace ConnectionUri.Uri

/-- The hosts: an address literal in brackets, or a name that may be empty. -/
inductive IsHost : Text → Prop where
  | literal {address : Text} :
      address ≠ [] → (∀ char ∈ address, isLiteralChar char = true) →
      IsHost ('[' :: (address ++ [']']))
  | name {name : Text} : Spelled isNameChar name → IsHost name

/-- The optional ports: a port that is there consists of decimal digits and may be empty. -/
def IsPort (port : Option Text) : Prop :=
  ∀ digits ∈ port, ∀ digit ∈ digits, digit.isDigit = true

theorem IsHost.not_mem {host : Text} (legal : IsHost host) {mark : Char}
    (outside : mark ∈ ['@', '/', '?', '#', '\n']) : mark ∉ host := by
  simp only [List.mem_cons, List.not_mem_nil, or_false] at outside
  cases legal with
  | @literal address _ inside =>
      intro member
      simp only [List.mem_cons, List.mem_append, List.not_mem_nil, or_false] at member
      rcases member with rfl | member | rfl
      · simp at outside
      · have literal := inside mark member
        rcases outside with rfl | rfl | rfl | rfl | rfl <;> revert literal <;> decide
      · simp at outside
  | name spelled =>
      refine spelled.not_mem ?_
      rcases outside with rfl | rfl | rfl | rfl | rfl <;> decide

theorem IsPort.not_mem {port : Option Text} (legal : IsPort port) {mark : Char}
    (outside : mark ≠ ':' ∧ mark.isDigit = false) : mark ∉ marked [':'] port := by
  cases port with
  | none => simp [marked]
  | some digits =>
      simp only [marked, List.mem_append, List.mem_singleton, not_or]
      exact ⟨outside.1, fun member => by simp [legal digits rfl mark member] at outside⟩

theorem port?_eq_some_iff {text : Text} {port : Option Text} :
    port? text = some port ↔ IsPort port ∧ marked [':'] port = text := by
  unfold port?
  split
  · cases port <;> simp [marked, IsPort]
  · next digits =>
      split
      · next legal =>
          have digitsOnly : IsPort (some digits) := by
            rintro _ ⟨⟩ digit member
            exact List.all_eq_true.mp legal digit member
          constructor
          · rintro ⟨⟩
            exact ⟨digitsOnly, rfl⟩
          · rintro ⟨-, written⟩
            cases port with
            | none => simp [marked] at written
            | some other => simp_all [marked]
      · next illegal =>
          simp only [reduceCtorEq, false_iff, not_and]
          intro legal written
          cases port with
          | none => simp [marked] at written
          | some other =>
              simp only [marked, List.singleton_append, List.cons.injEq, true_and] at written
              subst written
              exact illegal (List.all_eq_true.mpr (legal _ rfl))
  · next noText noColon =>
      simp only [reduceCtorEq, false_iff, not_and]
      rintro - rfl
      cases port with
      | none => exact noText rfl
      | some digits => exact noColon digits rfl

private theorem colon_not_mem_name {name : Text} (spelled : Spelled isNameChar name) :
    ∀ char ∈ name, (char != ':') = true := by
  intro char member
  have absent : ':' ∉ name := spelled.not_mem (by decide)
  simpa using fun same : char = ':' => absent (same ▸ member)

theorem hostPort?_sound {text host : Text} {port : Option Text}
    (read : hostPort? text = some (host, port)) :
    IsHost host ∧ IsPort port ∧ host ++ marked [':'] port = text := by
  unfold hostPort? at read
  split at read
  · next rest =>
      cases found : Text.cut ']' rest with
      | mk literal remainder =>
          cases remainder with
          | none => simp [found] at read
          | some after =>
              simp only [found, Option.ite_none_right_eq_some, Option.map_eq_some_iff,
                Prod.mk.injEq, exists_eq_right_right] at read
              obtain ⟨checked, legalPort, sameHost⟩ := read
              simp only [Bool.and_eq_true, Bool.not_eq_true', List.isEmpty_eq_false_iff,
                List.all_eq_true] at checked
              obtain ⟨portLegal, written⟩ := port?_eq_some_iff.mp legalPort
              refine ⟨sameHost ▸ .literal checked.1 checked.2, portLegal, ?_⟩
              rw [← sameHost, written, Text.cut_eq_some found]
              simp
  · simp only [Option.ite_none_right_eq_some, Option.map_eq_some_iff, Prod.mk.injEq,
      exists_eq_right_right] at read
    obtain ⟨checked, legalPort, sameHost⟩ := read
    obtain ⟨portLegal, written⟩ := port?_eq_some_iff.mp legalPort
    refine ⟨sameHost ▸ .name ((isSpelled_iff (by decide)).mp checked), portLegal, ?_⟩
    rw [← sameHost, written, List.takeWhile_append_dropWhile]

theorem hostPort?_complete {host : Text} {port : Option Text} (legalHost : IsHost host)
    (legalPort : IsPort port) : hostPort? (host ++ marked [':'] port) = some (host, port) := by
  have readPort : port? (marked [':'] port) = some port :=
    port?_eq_some_iff.mpr ⟨legalPort, rfl⟩
  cases legalHost with
  | @literal address filled inside =>
      have absent : ']' ∉ address := by
        intro member
        have literal := inside _ member
        revert literal
        decide
      have brackets : '[' :: (address ++ [']']) ++ marked [':'] port =
          '[' :: (address ++ ']' :: marked [':'] port) := by simp
      have allLiteral : address.all isLiteralChar = true := List.all_eq_true.mpr inside
      simp [brackets, hostPort?, Text.cut_append_cons absent, filled, allLiteral, readPort]
  | name spelled =>
      have kept := colon_not_mem_name spelled
      have front : (host ++ marked [':'] port).takeWhile (· != ':') = host := by
        rw [List.takeWhile_append_of_pos kept]
        cases port <;> simp [marked]
      have back : (host ++ marked [':'] port).dropWhile (· != ':') = marked [':'] port := by
        rw [List.dropWhile_append_of_pos kept]
        cases port <;> simp [marked]
      unfold hostPort?
      split
      · next rest opened =>
          -- A name never begins with a bracket, and a port begins with a colon.
          cases host with
          | nil => cases port <;> simp [marked] at opened
          | cons first more =>
              cases (List.cons.inj opened).1
              have absent : '[' ∉ '[' :: more := spelled.not_mem (by decide)
              exact absurd List.mem_cons_self absent
      · have checked := (isSpelled_iff (by decide)).mpr spelled
        simp [front, back, readPort, checked]

/-- The host and the port of a text are the only legal ones that it is written from. -/
theorem hostPort?_eq_some_iff {text host : Text} {port : Option Text} :
    hostPort? text = some (host, port) ↔
      IsHost host ∧ IsPort port ∧ host ++ marked [':'] port = text :=
  ⟨hostPort?_sound, fun ⟨legalHost, legalPort, written⟩ =>
    written ▸ hostPort?_complete legalHost legalPort⟩

/-- The pieces of a server authority written one after another with their marks. -/
def Server.join (server : Server) : Text :=
  (match server.userInfo with
    | some userInfo => userInfo ++ ['@']
    | none => []) ++ server.host ++ marked [':'] server.port

/-- The pieces of a server authority are spelled as the grammar asks. -/
structure Server.Legal (server : Server) : Prop where
  userInfo : ∀ userInfo ∈ server.userInfo, Spelled isUserInfoChar userInfo
  host : IsHost server.host
  port : IsPort server.port

private theorem at_not_mem_hostPort {host : Text} {port : Option Text} (legalHost : IsHost host)
    (legalPort : IsPort port) : '@' ∉ host ++ marked [':'] port := by
  rw [List.mem_append, not_or]
  exact ⟨legalHost.not_mem (by simp), legalPort.not_mem (by decide)⟩

theorem server?_sound {text : Text} {server : Server} (read : server? text = some server) :
    server.Legal ∧ server.join = text := by
  unfold server? at read
  cases found : Text.cut '@' text with
  | mk before remainder =>
      cases remainder with
      | none =>
          simp only [found, Option.map_eq_some_iff, Prod.exists] at read
          obtain ⟨host, port, readHost, rfl⟩ := read
          obtain ⟨legalHost, legalPort, written⟩ := hostPort?_sound readHost
          exact ⟨⟨by simp, legalHost, legalPort⟩, by simpa [Server.join] using written⟩
      | some after =>
          simp only [found, Option.ite_none_right_eq_some, Option.map_eq_some_iff,
            Prod.exists] at read
          obtain ⟨checked, host, port, readHost, rfl⟩ := read
          obtain ⟨legalHost, legalPort, written⟩ := hostPort?_sound readHost
          refine ⟨⟨?_, legalHost, legalPort⟩, ?_⟩
          · rintro _ ⟨⟩
            exact (isSpelled_iff (by decide)).mp checked
          · simp [Server.join, List.append_assoc, written, Text.cut_eq_some found]

theorem server?_complete {server : Server} (legal : server.Legal) :
    server? server.join = some server := by
  have readHost := hostPort?_complete legal.host legal.port
  have noMark := at_not_mem_hostPort legal.host legal.port
  obtain ⟨userInfo, host, port⟩ := server
  cases userInfo with
  | none => simp [server?, Server.join, Text.cut_of_not_mem noMark, readHost]
  | some userInfo =>
      have spelled := legal.userInfo userInfo rfl
      have absent : '@' ∉ userInfo := spelled.not_mem (by decide)
      have joined : Server.join ⟨some userInfo, host, port⟩ =
          userInfo ++ '@' :: (host ++ marked [':'] port) := by simp [Server.join]
      simp [joined, server?, Text.cut_append_cons absent, readHost,
        (isSpelled_iff (by decide)).mpr spelled]

/-- The server form of a text is the only legal server that the text is written from. -/
theorem server?_eq_some_iff {text : Text} {server : Server} :
    server? text = some server ↔ server.Legal ∧ server.join = text :=
  ⟨server?_sound, fun ⟨legal, written⟩ => written ▸ server?_complete legal⟩

/-- A text has at most one server form. -/
theorem Server.Legal.join_injective {left right : Server} (leftLegal : left.Legal)
    (rightLegal : right.Legal) (same : left.join = right.join) : left = right := by
  have readLeft := server?_complete leftLegal
  rw [same, server?_complete rightLegal] at readLeft
  exact (Option.some.inj readLeft).symm

end ConnectionUri.Uri

/-!
## Components
-/

namespace ConnectionUri.Uri

/-- The authorities: server-based ones, and names of a registry. -/
def IsAuthority (authority : Text) : Prop :=
  (∃ server : Server, server.Legal ∧ server.join = authority) ∨ Spelled isRegistryChar authority

theorem isSchemeChar_of_isScheme {scheme : Text} (legal : isScheme scheme = true) :
    ∀ char ∈ scheme, isSchemeChar char = true := by
  cases scheme with
  | nil => cases legal
  | cons first rest =>
      simp only [isScheme, Bool.and_eq_true, List.all_eq_true] at legal
      intro char member
      rcases List.mem_cons.mp member with rfl | member
      · simp [isSchemeChar, Char.isAlphanum, legal.1]
      · exact legal.2 char member

/-- Every component is spelled as the grammar asks. -/
structure Split.Legal (parts : Split) : Prop where
  scheme : ∀ scheme ∈ parts.scheme, isScheme scheme = true
  authority : ∀ authority ∈ parts.authority, IsAuthority authority
  path : Spelled isPathChar parts.path
  query : ∀ query ∈ parts.query, Spelled isQueryChar query
  fragment : ∀ fragment ∈ parts.fragment, Spelled isQueryChar fragment

/-- The components, each without one line feed at its end. -/
def Split.trimmed (parts : Split) : Split where
  scheme := parts.scheme.map Text.dropFinalNewline
  authority := parts.authority.map Text.dropFinalNewline
  path := Text.dropFinalNewline parts.path
  query := parts.query.map Text.dropFinalNewline
  fragment := parts.fragment.map Text.dropFinalNewline

end ConnectionUri.Uri
