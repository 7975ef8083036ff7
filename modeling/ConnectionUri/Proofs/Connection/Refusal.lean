import ConnectionUri.Proofs.Connection.Records
import ConnectionUri.Proofs.Log.UserInfoMasking
import ConnectionUri.Proofs.Text.Escaped

/-!
# Refused texts in the log

The message about a refused text quotes it, with its control characters, backslashes and quotes
escaped. Escaping leaves the marks that delimit the user-info where they are, so the filter masks the
password there exactly if it would mask it in a text with these pieces.
-/

set_option autoImplicit false

namespace ConnectionUri.Uri

/-- The user-info decides on no complaint but the one about the authority, which is the last. -/
theorem illegalPart?_withUserInfo {parts : Split} {scheme : Option Text} {left right : Text}
    {part other : Part} (ofLeft : illegalPart? (parts.withUserInfo scheme left) = some part)
    (ofRight : illegalPart? (parts.withUserInfo scheme right) = some other) : part = other := by
  simp only [illegalPart?, Split.withUserInfo] at ofLeft ofRight
  grind

/-- What the message about a refused text begins with. -/
def syntaxLead : Text := "Invalid URI Syntax: ".toList

theorem message_illegal (part : Part) (uri : Text) :
    (SyntaxError.illegal part uri).message =
      syntaxLead ++ SyntaxError.complaint part ++ Text.quoted uri := rfl

/-- A text is refused for the part that is complained about. -/
theorem illegal_of_refused {uri : Text} {cause : SyntaxError}
    (refused : decompose uri = .error (.syntaxError cause)) :
    ∃ part, illegalPart? (split uri) = some part ∧ cause = .illegal part uri := by
  unfold decompose at refused
  cases complained : illegalPart? (split uri) with
  | some part =>
      simp only [complained] at refused
      cases refused
      exact ⟨part, rfl, rfl⟩
  | none =>
      simp only [complained] at refused
      split at refused <;> cases refused

end ConnectionUri.Uri

namespace ConnectionUri.Connection

open Uri Log Redaction Text

/-- What the message about a refused text says before it quotes the text. -/
def refusalLead (part : Part) (quote : Char) : Text :=
  failedLead ++ (syntaxLead ++ SyntaxError.complaint part) ++ [quote]

theorem isLead_refusalLead (part : Part) {quote : Char} (isQuote : IsQuote quote) :
    IsLead (refusalLead part quote) := by
  rcases isQuote with rfl | rfl <;> cases part <;> exact ⟨by decide, by decide⟩

theorem quiet_refusalLead (part : Part) {quote : Char} (isQuote : IsQuote quote) (rest : Text) :
    Quiet keyed? (refusalLead part quote) rest := by
  refine Quiet.of_mark ?_ ?_ rest
  · rcases isQuote with rfl | rfl <;> decide
  · rcases isQuote with rfl | rfl <;> cases part <;> decide +kernel

theorem escaped_secured {quote : Char} (isQuote : IsQuote quote) (scheme : Option Text)
    (username password rest : Text) :
    escaped quote (secured scheme username password rest) =
      secured (scheme.map (escaped quote)) (escaped quote username) (escaped quote password)
        (escaped quote rest) := by
  have marks : escaped quote ['/', '/'] = ['/', '/'] ∧ escaped quote [':'] = [':'] ∧
      escaped quote ['@'] = ['@'] := by
    rcases isQuote with rfl | rfl <;> decide
  obtain ⟨slashes, colon, atSign⟩ := marks
  cases scheme with
  | none => simp only [secured, closed, Option.map_none, escaped_append, slashes, colon, atSign]; rfl
  | some name =>
      simp only [secured, closed, Option.map_some, escaped_append, slashes, colon, atSign]

theorem isUserInfo_escaped {quote : Char} (isQuote : IsQuote quote) {username password : Text}
    (userInfo : IsUserInfo username password) :
    IsUserInfo (escaped quote username) (escaped quote password) where
  noColon := not_mem_escaped isQuote (by decide) userInfo.noColon
  filled := escaped_ne_nil userInfo.filled quote
  free := by
    intro mark member isMark
    have outside : FreeOf (singleQuote :: doubleQuote :: escapeChars) ['@', '/', '?', '#'] := by decide
    rw [← escaped_append] at member
    exact not_mem_escaped isQuote (outside mark isMark) (userInfo.free.not_mem isMark) member

theorem marks_escaped {quote : Char} (isQuote : IsQuote quote) {scheme : Option Text}
    (named : ∀ name ∈ scheme, isScheme name = true) :
    ∀ name ∈ scheme.map (escaped quote), ':' ∉ name ∧ '/' ∉ name := by
  intro _ present
  obtain ⟨name, known, rfl⟩ := Option.map_eq_some_iff.mp present
  obtain ⟨-, free⟩ := freeOf_of_isScheme (named name known)
  exact ⟨not_mem_escaped isQuote (by decide) (free.not_mem (by simp)),
    not_mem_escaped isQuote (by decide) (free.not_mem (by simp))⟩

theorem covered_escaped_iff {quote : Char} (isQuote : IsQuote quote) {scheme : Option Text}
    {username password : Text} :
    Covered (scheme.map (escaped quote)) (escaped quote username) (escaped quote password) ↔
      scheme ≠ none ∧ ' ' ∉ username ++ password := by
  rw [Covered, ← escaped_append, ne_eq, Option.map_eq_none_iff]
  refine and_congr_right fun _ => ⟨fun plain member => ?_, fun noSpace char member => ?_⟩
  · exact absurd (plain ' ' (space_mem_escaped isQuote member)) (by decide)
  · exact isBlank_eq_false_of_mem_escaped isQuote noSpace member

/-- A text with a password as the message about its refusal quotes it. -/
def quotedSecured (quote : Char) (scheme : Option Text) (username password rest : Text) : Text :=
  secured (scheme.map (escaped quote)) (escaped quote username) (escaped quote password) rest

/-- No value of a key begins before the host where a text is quoted. -/
def UnkeyedQuote (quote : Char) (scheme : Option Text) (username password rest : Text) : Prop :=
  Quiet keyed? (quotedSecured quote scheme username password []) (escaped quote rest ++ [quote])

theorem message_refusal (part : Part) {quote : Char} {scheme : Option Text}
    {username password rest : Text}
    (quoted : quoteFor (secured scheme username password rest) = quote) :
    (failedRecord ⟨.invalidUriSyntax,
        (SyntaxError.illegal part (secured scheme username password rest)).message⟩).message =
      .ok (refusalLead part quote ++
        quotedSecured quote scheme username password (escaped quote rest ++ [quote])) := by
  have isQuote : IsQuote quote := quoted ▸ isQuote_quoteFor _
  refine (message_failedRecord _).trans (congrArg Except.ok ?_)
  rw [message_illegal, quoted_eq_escaped, quoted, escaped_secured isQuote, refusalLead,
    quotedSecured, secured_eq_append, secured_eq_append _ _ _ (escaped quote rest ++ [quote])]
  simp only [List.append_assoc, List.cons_append, List.nil_append]

section Refused

variable {part : Part} {quote : Char} {scheme : Option Text} {username password rest : Text}

theorem quiet_refusal (isQuote : IsQuote quote)
    (unkeyed : UnkeyedQuote quote scheme username password rest) :
    Quiet keyed? (refusalLead part quote ++ quotedSecured quote scheme username password [])
      (escaped quote rest ++ [quote]) :=
  quiet_append_iff.mpr ⟨quiet_refusalLead part isQuote _, unkeyed⟩

/-- The message about a refused text with its password masked. -/
theorem redact_refusal_of_masked (isQuote : IsQuote quote)
    (named : ∀ name ∈ scheme, isScheme name = true) (userInfo : IsUserInfo username password)
    (unkeyed : UnkeyedQuote quote scheme username password rest)
    (masked : scheme ≠ none ∧ ' ' ∉ username ++ password) :
    redact (refusalLead part quote ++
        quotedSecured quote scheme username password (escaped quote rest ++ [quote])) =
      refusalLead part quote ++ secured (scheme.map (escaped quote)) (escaped quote username)
        Credential.mask (redact (escaped quote rest ++ [quote])) :=
  redact_secured_of_covered (isLead_refusalLead part isQuote) (marks_escaped isQuote named)
    (isUserInfo_escaped isQuote userInfo) (quiet_refusal isQuote unkeyed)
    ((covered_escaped_iff isQuote).mpr masked)

theorem redact_refusal_of_not_masked (isQuote : IsQuote quote)
    (named : ∀ name ∈ scheme, isScheme name = true) (userInfo : IsUserInfo username password)
    (unkeyed : UnkeyedQuote quote scheme username password rest)
    (unmasked : ¬ (scheme ≠ none ∧ ' ' ∉ username ++ password)) :
    redact (refusalLead part quote ++
        quotedSecured quote scheme username password (escaped quote rest ++ [quote])) =
      refusalLead part quote ++
        quotedSecured quote scheme username password (redact (escaped quote rest ++ [quote])) :=
  redact_secured_of_not_covered (isLead_refusalLead part isQuote) (marks_escaped isQuote named)
    (isUserInfo_escaped isQuote userInfo) (quiet_refusal isQuote unkeyed)
    fun covered => unmasked ((covered_escaped_iff isQuote).mp covered)

end Refused

end ConnectionUri.Connection
