import ConnectionUri.Proofs.Uri.Decomposition

/-!
# The characters of accepted texts

A text that decomposes holds URI characters only, apart from one line feed at the end of each of its
components. `decompose_characters` says so exactly: the illegal characters of an accepted text are
these line feeds, and a text with a control character or a blank is refused for its syntax unless
these line feeds are all that is wrong with it.
-/

set_option autoImplicit false

/-!
## Character classes
-/

namespace ConnectionUri.Uri

/-- Whether a character may stand somewhere in a URI: an unreserved or international character, a
delimiter of components or of their parts, or the percent sign. -/
def isUriChar (char : Char) : Bool :=
  isUnreserved char || isSubDelimiter char ||
    [':', '/', '?', '#', '[', ']', '@'].contains char || char == '%'

/-- Whether a character is a control character or white space in ASCII. -/
def isControlOrBlank (char : Char) : Bool := char.toNat ≤ 0x20 || char.toNat == 0x7F

theorem isControlOrBlank_of_isUriChar {char : Char} (legal : isUriChar char = true) :
    isControlOrBlank char = false := by
  cases control : isControlOrBlank char with
  | false => rfl
  | true =>
      have ascii : char.toNat < 128 := by
        simp only [isControlOrBlank, Bool.or_eq_true, decide_eq_true_eq, beq_iff_eq] at control
        omega
      have outside := Text.forall_ascii
        (motive := fun char => isControlOrBlank char = true → isUriChar char = false)
        (by decide +kernel) char ascii control
      rw [legal] at outside
      cases outside

theorem isHexDigit_ascii {char : Char} (digit : Text.isHexDigit char = true) :
    char.toNat < 128 := by
  simp only [Text.isHexDigit, Text.hexValue?, Char.le_def, UInt32.le_iff_toNat_le] at digit
  have code : char.val.toNat = char.toNat := rfl
  have lastDigit : '9'.val.toNat = 57 := rfl
  have lastLower : 'f'.val.toNat = 102 := rfl
  have lastUpper : 'F'.val.toNat = 70 := rfl
  grind

theorem isUriChar_of_isHexDigit {char : Char} (digit : Text.isHexDigit char = true) :
    isUriChar char = true :=
  Text.forall_ascii (motive := fun char => Text.isHexDigit char = true → isUriChar char = true)
    (by decide +kernel) char (isHexDigit_ascii digit) digit

theorem isUriChar_of_isQueryChar {char : Char} (permitted : isQueryChar char = true) :
    isUriChar char = true := by
  simp only [isQueryChar, isPathChar, isRegistryChar, isNameChar, isUriChar, Bool.or_eq_true,
    List.contains_cons, beq_iff_eq] at permitted ⊢
  grind

theorem isUriChar_of_isLiteralChar {char : Char} (permitted : isLiteralChar char = true) :
    isUriChar char = true := by
  simp only [isLiteralChar, isUriChar, isUnreserved, Bool.or_eq_true, List.contains_cons,
    beq_iff_eq] at permitted ⊢
  grind

theorem isUriChar_of_isScheme {scheme : Text} (legal : isScheme scheme = true) :
    ∀ char ∈ scheme, isUriChar char = true := by
  intro char member
  have permitted := isSchemeChar_of_isScheme legal char member
  simp only [isSchemeChar, isUriChar, isUnreserved, isSubDelimiter, Bool.or_eq_true,
    List.contains_cons, beq_iff_eq] at permitted ⊢
  grind

/-!
## The characters of legal components
-/

theorem Spelled.isUriChar {allowed : Char → Bool} {text : Text} (spelled : Spelled allowed text)
    (contained : ∀ char, allowed char = true → isQueryChar char = true) :
    ∀ char ∈ text, isUriChar char = true := by
  intro char member
  rcases spelled.mem member with permitted | rfl | digit
  · exact isUriChar_of_isQueryChar (contained char permitted)
  · rfl
  · exact isUriChar_of_isHexDigit digit

theorem IsHost.isUriChar {host : Text} (legal : IsHost host) :
    ∀ char ∈ host, isUriChar char = true := by
  cases legal with
  | literal _ inside =>
      intro char member
      simp only [List.mem_cons, List.mem_append, List.not_mem_nil, or_false] at member
      rcases member with rfl | member | rfl
      · rfl
      · exact isUriChar_of_isLiteralChar (inside char member)
      · rfl
  | name spelled =>
      exact spelled.isUriChar fun char permitted => by
        simp [isQueryChar, isPathChar, isRegistryChar, permitted]

theorem isUriChar_of_isDigit {char : Char} (digit : char.isDigit = true) :
    isUriChar char = true := by
  simp [isUriChar, isUnreserved, Char.isAlphanum, digit]

theorem Server.Legal.isUriChar {server : Server} (legal : server.Legal) :
    ∀ char ∈ server.join, isUriChar char = true := by
  obtain ⟨userInfo, host, port⟩ := server
  intro char member
  simp only [Server.join, List.mem_append] at member
  rcases member with (member | member) | member
  · cases userInfo with
    | none => simp at member
    | some userInfo =>
        simp only [List.mem_append, List.mem_singleton] at member
        rcases member with member | rfl
        · refine (legal.userInfo userInfo rfl).isUriChar (fun char permitted => ?_) char member
          simp only [isUserInfoChar, Bool.or_eq_true] at permitted
          rcases permitted with name | colon
          · simp [isQueryChar, isPathChar, isRegistryChar, name]
          · simp [isQueryChar, isPathChar, isRegistryChar, colon]
        · rfl
  · exact legal.host.isUriChar char member
  · cases port with
    | none => simp [marked] at member
    | some digits =>
        simp only [marked, List.mem_append, List.mem_singleton] at member
        rcases member with rfl | member
        · rfl
        · exact isUriChar_of_isDigit (legal.port digits rfl char member)

theorem IsAuthority.isUriChar {authority : Text} (legal : IsAuthority authority) :
    ∀ char ∈ authority, isUriChar char = true := by
  rcases legal with ⟨server, serverLegal, rfl⟩ | registry
  · exact serverLegal.isUriChar
  · exact registry.isUriChar fun char permitted => by simp [isQueryChar, isPathChar, permitted]

private theorem isUriChar_marked {mark : Text} {part : Option Text}
    (ofMark : mark.all isUriChar = true)
    (ofPart : ∀ text ∈ part, ∀ char ∈ text, isUriChar char = true) :
    ∀ char ∈ marked mark part, isUriChar char = true := by
  cases part with
  | none => simp [marked]
  | some text =>
      intro char member
      rcases List.mem_append.mp member with member | member
      · exact List.all_eq_true.mp ofMark char member
      · exact ofPart text rfl char member

/-- Legal components put together hold URI characters only. -/
theorem Split.Legal.isUriChar {parts : Split} (legal : parts.Legal) :
    ∀ char ∈ parts.join, isUriChar char = true := by
  intro char member
  simp only [Split.join, List.mem_append] at member
  rcases member with (((member | member) | member) | member) | member
  · cases present : parts.scheme with
    | none => simp [present, closed] at member
    | some scheme =>
        simp only [present, closed, List.mem_append, List.mem_singleton] at member
        rcases member with member | rfl
        · exact isUriChar_of_isScheme (legal.scheme scheme present) char member
        · rfl
  · exact isUriChar_marked (by decide) (fun text present => (legal.authority text present).isUriChar)
      char member
  · exact legal.path.isUriChar (fun char permitted => by simp [isQueryChar, permitted]) char member
  · exact isUriChar_marked (by decide)
      (fun text present => (legal.query text present).isUriChar fun _ => id) char member
  · exact isUriChar_marked (by decide)
      (fun text present => (legal.fragment text present).isUriChar fun _ => id) char member

end ConnectionUri.Uri

/-!
## The characters of accepted texts
-/

namespace ConnectionUri.Uri

private theorem mem_marked_trimmed {mark : Text} {part : Option Text} {char : Char}
    (member : char ∈ marked mark part) :
    char ∈ marked mark (part.map Text.dropFinalNewline) ∨
      char = '\n' ∧ ∃ text ∈ part, ['\n'] <:+ text := by
  cases part with
  | none => simp [marked] at member
  | some text =>
      rcases List.mem_append.mp member with member | member
      · exact .inl (List.mem_append_left _ member)
      · rcases Text.mem_dropFinalNewline member with kept | ⟨newline, ended⟩
        · exact .inl (List.mem_append_right _ kept)
        · exact .inr ⟨newline, text, rfl, ended⟩

private theorem mem_closed_trimmed {part : Option Text} {char : Char}
    (member : char ∈ closed part) :
    char ∈ closed (part.map Text.dropFinalNewline) ∨
      char = '\n' ∧ ∃ text ∈ part, ['\n'] <:+ text := by
  cases part with
  | none => simp [closed] at member
  | some text =>
      rcases List.mem_append.mp member with member | member
      · rcases Text.mem_dropFinalNewline member with kept | ⟨newline, ended⟩
        · exact .inl (List.mem_append_left _ kept)
        · exact .inr ⟨newline, text, rfl, ended⟩
      · exact .inl (List.mem_append_right _ member)

/-- Trimming takes away line feeds at the ends of components and nothing else. -/
theorem Split.mem_join_trimmed {parts : Split} {char : Char} (member : char ∈ parts.join) :
    char ∈ parts.trimmed.join ∨ char = '\n' ∧ parts.EndsInNewline := by
  have optional : ∀ part : Option Text, (∀ text ∈ part, text ∈ parts.components) →
      (∃ text ∈ part, ['\n'] <:+ text) → parts.EndsInNewline := by
    intro part contained ⟨text, present, ended⟩
    exact ⟨text, contained text present, ended⟩
  simp only [Split.join, List.mem_append, Split.trimmed] at member ⊢
  rcases member with (((member | member) | member) | member) | member
  · rcases mem_closed_trimmed member with kept | ⟨newline, ended⟩
    · exact .inl (.inl (.inl (.inl (.inl kept))))
    · exact .inr ⟨newline, optional _ (by simp +contextual [components]) ended⟩
  · rcases mem_marked_trimmed member with kept | ⟨newline, ended⟩
    · exact .inl (.inl (.inl (.inl (.inr kept))))
    · exact .inr ⟨newline, optional _ (by simp +contextual [components]) ended⟩
  · rcases Text.mem_dropFinalNewline member with kept | ⟨newline, ended⟩
    · exact .inl (.inl (.inl (.inr kept)))
    · exact .inr ⟨newline, parts.path, by simp [components], ended⟩
  · rcases mem_marked_trimmed member with kept | ⟨newline, ended⟩
    · exact .inl (.inl (.inr kept))
    · exact .inr ⟨newline, optional _ (by simp +contextual [components]) ended⟩
  · rcases mem_marked_trimmed member with kept | ⟨newline, ended⟩
    · exact .inl (.inr kept)
    · exact .inr ⟨newline, optional _ (by simp +contextual [components]) ended⟩

theorem not_suffix_of_forall_isUriChar {text : Text}
    (legal : ∀ char ∈ text, isUriChar char = true) : ¬ ['\n'] <:+ text := by
  intro ended
  have newline := legal '\n' (ended.subset List.mem_cons_self)
  revert newline
  decide

theorem isScheme_iff_of_trimmed {scheme : Text}
    (legal : isScheme (Text.dropFinalNewline scheme) = true) :
    isScheme scheme = true ↔ ¬ ['\n'] <:+ scheme := by
  constructor
  · intro whole
    exact not_suffix_of_forall_isUriChar (isUriChar_of_isScheme whole)
  · intro ended
    rwa [Text.dropFinalNewline_of_not_suffix ended] at legal

theorem query_characters_iff_of_trimmed {query : Text}
    (legal : Spelled isQueryChar (Text.dropFinalNewline query)) :
    (∀ char ∈ query, isControlOrBlank char = false) ↔ ¬ ['\n'] <:+ query := by
  constructor
  · intro plain ended
    have newline := plain '\n' (ended.subset List.mem_cons_self)
    revert newline
    decide
  · intro ended
    rw [Text.dropFinalNewline_of_not_suffix ended] at legal
    exact fun char member => isControlOrBlank_of_isUriChar (legal.isUriChar (fun _ => id) char member)

/-- With one line feed taken from the end of each component, an accepted text holds URI characters
only. So the whole text does, its scheme is a scheme in full, and its query has no control
character, exactly when the component in question does not end in a line feed. A text with a control
character or a blank is refused for its syntax unless trimming its components makes it legal. -/
theorem decompose_characters (text : Text) :
    (∀ components, decompose text = .ok components →
      (∀ char ∈ (split text).trimmed.join, isUriChar char = true) ∧
      ((∀ char ∈ text, isUriChar char = true) ↔ ¬ (split text).EndsInNewline) ∧
      (∀ scheme ∈ components.scheme, isScheme scheme = true ↔ ¬ ['\n'] <:+ scheme) ∧
      ∀ query ∈ components.query,
        (∀ char ∈ query, isControlOrBlank char = false) ↔ ¬ ['\n'] <:+ query) ∧
    ((∃ char ∈ text, isControlOrBlank char = true) →
      ((∃ part, decompose text = .error (.syntaxError (.illegal part text))) ↔
        ¬ ((split text).EndsInNewline ∧ (split text).trimmed.Legal))) := by
  have ofLegal : (split text).trimmed.Legal → ∀ char ∈ text,
      isUriChar char = true ∨ char = '\n' ∧ (split text).EndsInNewline := by
    intro legal char member
    rw [← join_split text] at member
    exact (Split.mem_join_trimmed member).imp_left (legal.isUriChar char)
  constructor
  · intro components decomposed
    obtain ⟨legal, -, rfl⟩ := decompose_eq_ok_iff.mp decomposed
    refine ⟨legal.isUriChar, ⟨?_, ?_⟩, ?_, ?_⟩
    · intro plain ⟨part, present, ended⟩
      refine not_suffix_of_forall_isUriChar (fun char member => plain char ?_) ended
      rw [← join_split text]
      exact Split.mem_join_of_mem_components present member
    · intro ended char member
      exact (ofLegal legal char member).resolve_right fun newline => ended newline.2
    · intro scheme present
      exact isScheme_iff_of_trimmed (legal.scheme _ (Option.mem_map_of_mem _ present))
    · intro query present
      exact query_characters_iff_of_trimmed (legal.query _ (Option.mem_map_of_mem _ present))
  · intro ⟨char, member, control⟩
    rw [decompose_eq_syntaxError_iff]
    constructor
    · intro illegal trimmed
      exact illegal trimmed.2
    · intro untrimmed legal
      rcases ofLegal legal char member with plain | newline
      · simp [isControlOrBlank_of_isUriChar plain] at control
      · exact untrimmed ⟨newline.2, legal⟩

/-- A line feed after a host is accepted, although it is no URI character. -/
theorem decompose_newline_after_host :
    (∃ components, decompose "ssh://host\n".toList = .ok components) ∧
      ¬ (∀ char ∈ "ssh://host\n".toList, isUriChar char = true) ∧
      ¬ ∃ part, decompose "ssh://host\n".toList =
        .error (.syntaxError (.illegal part "ssh://host\n".toList)) := by
  have accepted : decompose "ssh://host\n".toList =
      .ok ⟨some "ssh".toList, none, some "host".toList, none, none⟩ := rfl
  have parts : (split "ssh://host\n".toList).components =
      ["ssh".toList, "host\n".toList, []] := rfl
  have ended : (split "ssh://host\n".toList).EndsInNewline :=
    ⟨"host\n".toList, by rw [parts]; exact .tail _ (.head _), "host".toList, rfl⟩
  obtain ⟨ofAccepted, ofControl⟩ := decompose_characters "ssh://host\n".toList
  obtain ⟨-, plain, -⟩ := ofAccepted _ accepted
  have legal := (decompose_eq_ok_iff.mp accepted).1
  have member : '\n' ∈ "ssh://host\n".toList := by decide
  refine ⟨⟨_, accepted⟩, fun all => plain.mp all ended, ?_⟩
  intro refused
  exact (ofControl ⟨'\n', member, rfl⟩).mp refused ⟨ended, legal⟩

end ConnectionUri.Uri
