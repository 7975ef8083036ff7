import ConnectionUri.Proofs.Uri.Composition

/-!
# User-infos and their surroundings

`credentialed` puts a user-info before the host of a text. The user-info changes neither whether the
text decomposes nor any component but itself: `decompose_credentialed` takes the decomposition from
one user-info to another.
-/

set_option autoImplicit false

/-!
## Authorities
-/

namespace ConnectionUri.Uri

variable {userInfo : Text}

theorem server?_append_cons (spelled : Spelled isUserInfoChar userInfo) (rest : Text) :
    server? (userInfo ++ '@' :: rest) =
      (hostPort? rest).map fun (host, port) => ⟨some userInfo, host, port⟩ := by
  have absent : '@' ∉ userInfo := spelled.not_mem (by decide)
  have accepted := (isSpelled_iff (by decide)).mpr spelled
  simp only [server?, Text.cut_append_cons absent, accepted, if_true]

theorem spelled_registry_append_cons_iff (spelled : Spelled isUserInfoChar userInfo) {rest : Text} :
    Spelled isRegistryChar (userInfo ++ '@' :: rest) ↔ Spelled isRegistryChar rest := by
  have front : Spelled isRegistryChar userInfo := by
    apply spelled.mono
    intro char permitted
    simp only [isUserInfoChar, isRegistryChar] at permitted ⊢
    rw [permitted]
    rfl
  constructor
  · exact fun whole => (whole.of_append_cons (by decide)).2
  · exact fun after => front.append (.char (by decide) after)

theorem isAuthority_append_cons_iff (spelled : Spelled isUserInfoChar userInfo) {rest : Text} :
    IsAuthority (userInfo ++ '@' :: rest) ↔
      (hostPort? rest).isSome = true ∨ Spelled isRegistryChar rest := by
  have form : (∃ server : Server, server.Legal ∧ server.join = userInfo ++ '@' :: rest) ↔
      (hostPort? rest).isSome = true := by
    simp only [← server?_eq_some_iff, ← Option.isSome_iff_exists, server?_append_cons spelled,
      Option.isSome_map]
  rw [IsAuthority, form, spelled_registry_append_cons_iff spelled]

theorem serverOf?_eq_bind (parts : Split) :
    serverOf? parts =
      parts.authority.bind fun authority => server? (Text.dropFinalNewline authority) := by
  unfold serverOf? Authority.ofText?
  cases parts.authority with
  | none => rfl
  | some authority =>
      simp only [Option.bind_some]
      cases server? (Text.dropFinalNewline authority) with
      | some server => rfl
      | none =>
          simp only []
          split
          · next found =>
              split at found
              · cases found
              · cases found
          · rfl

end ConnectionUri.Uri

/-!
## Texts
-/

namespace ConnectionUri.Uri

/-- A text with a scheme, if there is one, and with a user-info before the rest of its authority. -/
def credentialed (scheme : Option Text) (userInfo rest : Text) : Text :=
  closed scheme ++ ['/', '/'] ++ userInfo ++ ['@'] ++ rest

/-- The split of a text without its user-info, with the user-info put in. -/
def Split.withUserInfo (parts : Split) (scheme : Option Text) (userInfo : Text) : Split :=
  { parts with scheme, authority := parts.authority.map fun host => userInfo ++ '@' :: host }

variable {scheme : Option Text} {userInfo : Text}

theorem splitScheme_slashes (rest : Text) :
    splitScheme ('/' :: '/' :: rest) = (none, '/' :: '/' :: rest) := by
  apply splitScheme_eq_none
  intro before after written _ noSlash
  cases before with
  | nil => rfl
  | cons first more =>
      obtain ⟨rfl, _⟩ := List.cons.inj written
      exact absurd List.mem_cons_self noSlash

theorem split_slashes (rest : Text) :
    (split ('/' :: '/' :: rest)).scheme = none ∧
      ∃ host, (split ('/' :: '/' :: rest)).authority = some host := by
  have begins : front ('/' :: '/' :: rest) = '/' :: '/' :: front rest :=
    front_append (show FreeOf ['?', '#'] ['/', '/'] by simp [FreeOf]) rest
  have noScheme := splitScheme_slashes (front rest)
  rw [← begins] at noScheme
  refine ⟨congrArg Prod.fst noScheme, (front rest).takeWhile (· != '/'), ?_⟩
  show (splitAuthority (splitScheme (front ('/' :: '/' :: rest))).2).1 = _
  rw [noScheme, begins]
  rfl

theorem Split.join_withUserInfo {parts : Split} {host rest : Text} (noScheme : parts.scheme = none)
    (present : parts.authority = some host) (joined : parts.join = '/' :: '/' :: rest) :
    (parts.withUserInfo scheme userInfo).join = credentialed scheme userInfo rest := by
  obtain ⟨_, _, path, query, fragment⟩ := parts
  cases noScheme
  cases present
  have after : host ++ path ++ marked ['?'] query ++ marked ['#'] fragment = rest :=
    (List.cons.inj (List.cons.inj joined).2).2
  simp only [withUserInfo, join, credentialed, ← after, marked, Option.map_some]
  simp

theorem split_credentialed_of_free (legal : ∀ name ∈ scheme, isScheme name = true)
    (userInfoFree : FreeOf ['/', '?', '#'] userInfo) (rest : Text) :
    split (credentialed scheme userInfo rest) =
      (split ('/' :: '/' :: rest)).withUserInfo scheme userInfo := by
  obtain ⟨noScheme, host, present⟩ := split_slashes rest
  have bare := firstMarks_split ('/' :: '/' :: rest)
  obtain ⟨free, rooted⟩ := bare.authority host present
  have markFree : FreeOf ['/', '?', '#'] ['@'] := by simp [FreeOf]
  have splits : FirstMarks _ ((split ('/' :: '/' :: rest)).withUserInfo scheme userInfo) :=
    .of_authority (by rw [Split.withUserInfo, present]; rfl)
      (userInfoFree.append (markFree.append free)) rooted
      (fun name written => freeOf_of_isScheme (legal name written)) bare.path bare.query
  rw [← Split.join_withUserInfo noScheme present bare.joined, splits.eq_split]

theorem split_credentialed (legal : ∀ name ∈ scheme, isScheme name = true)
    (spelled : Spelled isUserInfoChar userInfo) (rest : Text) :
    split (credentialed scheme userInfo rest) =
      (split ('/' :: '/' :: rest)).withUserInfo scheme userInfo :=
  split_credentialed_of_free legal (spelled.freeOf (by decide)) rest

/-- What follows the user-info of an authority, read as a host and a port. -/
def Split.hostPort? (parts : Split) : Option (Text × Option Text) :=
  parts.authority.bind fun host => Uri.hostPort? (Text.dropFinalNewline host)

theorem serverOf?_withUserInfo (spelled : Spelled isUserInfoChar userInfo) (parts : Split) :
    serverOf? (parts.withUserInfo scheme userInfo) =
      parts.hostPort?.map fun (host, port) => ⟨some userInfo, host, port⟩ := by
  rw [serverOf?_eq_bind, Split.hostPort?, Split.withUserInfo]
  cases parts.authority with
  | none => rfl
  | some host =>
      simp only [Option.map_some, Option.bind_some]
      rw [Text.dropFinalNewline_append_cons (by decide), server?_append_cons spelled]

end ConnectionUri.Uri

/-!
## Exchanged user-infos
-/

namespace ConnectionUri.Uri

variable {scheme : Option Text} {left right : Text}

theorem legal_withUserInfo (ofLeft : Spelled isUserInfoChar left)
    (ofRight : Spelled isUserInfoChar right) {parts : Split}
    (legal : (parts.withUserInfo scheme left).trimmed.Legal) :
    (parts.withUserInfo scheme right).trimmed.Legal := by
  refine ⟨legal.scheme, ?_, legal.path, legal.query, legal.fragment⟩
  intro authority member
  obtain ⟨written, present, rfl⟩ := Option.map_eq_some_iff.mp member
  obtain ⟨host, there, rfl⟩ := Option.map_eq_some_iff.mp present
  have accepted := legal.authority (Text.dropFinalNewline (left ++ '@' :: host))
    (by simp [Split.trimmed, Split.withUserInfo, there])
  rw [Text.dropFinalNewline_append_cons (by decide)] at accepted ⊢
  exact (isAuthority_append_cons_iff ofRight).mpr ((isAuthority_append_cons_iff ofLeft).mp accepted)

theorem ofSplit_withUserInfo (ofLeft : Spelled isUserInfoChar left)
    (ofRight : Spelled isUserInfoChar right) (parts : Split) :
    Components.ofSplit (parts.withUserInfo scheme right) =
      { Components.ofSplit (parts.withUserInfo scheme left) with
        userInfo := (Components.ofSplit (parts.withUserInfo scheme left)).userInfo.map
          fun _ => right } := by
  simp only [Components.ofSplit, serverOf?_withUserInfo ofLeft, serverOf?_withUserInfo ofRight]
  cases parts.hostPort? with
  | none => rfl
  | some pieces => rfl

/-- With one user-info in place of another a text decomposes as before. Where a user-info is
returned it is the written one, and nothing else changes. -/
theorem decompose_credentialed (named : ∀ name ∈ scheme, isScheme name = true)
    (ofLeft : Spelled isUserInfoChar left) (ofRight : Spelled isUserInfoChar right) {rest : Text}
    {components : Components} (accepted : decompose (credentialed scheme left rest) = .ok components) :
    (∀ userInfo ∈ components.userInfo, userInfo = left) ∧
      decompose (credentialed scheme right rest) =
        .ok { components with userInfo := components.userInfo.map fun _ => right } := by
  obtain ⟨legal, short, rfl⟩ := decompose_eq_ok_iff.mp accepted
  rw [split_credentialed named ofLeft] at legal short ⊢
  constructor
  · simp only [Components.ofSplit, serverOf?_withUserInfo ofLeft]
    cases (split ('/' :: '/' :: rest)).hostPort? with
    | none => simp
    | some pieces => simp
  · refine decompose_eq_ok_iff.mpr ⟨?_, ?_, ?_⟩
    · rw [split_credentialed named ofRight]
      exact legal_withUserInfo ofLeft ofRight legal
    · rw [split_credentialed named ofRight]
      rw [serverOf?_withUserInfo ofLeft] at short
      rw [serverOf?_withUserInfo ofRight]
      cases pieces : (split ('/' :: '/' :: rest)).hostPort? with
      | none => simp [IsShort]
      | some pair =>
          rw [pieces] at short
          exact short
    · rw [split_credentialed named ofRight, ofSplit_withUserInfo ofLeft ofRight]

end ConnectionUri.Uri
