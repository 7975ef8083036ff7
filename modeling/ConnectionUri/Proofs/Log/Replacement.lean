import ConnectionUri.Log.Redaction

/-!
# Replacement from left to right

`Replaces` says what replacing credentials makes of a text, without the count of characters that are
still to be skipped. Text in which nothing is found is copied, and a text whose every credential is
masked already is left alone.
-/

set_option autoImplicit false

namespace ConnectionUri.Log

/-- A credential with its surroundings. -/
def Credential.whole (found : Credential) : Text := found.before ++ found.hidden ++ found.after

namespace Redaction

variable {find? : Text → Option Credential}

/-- What is found stands at the front of the text, and something is kept before the credential. -/
def FindsAtFront (find? : Text → Option Credential) : Prop :=
  ∀ text found, find? text = some found → found.before ≠ [] ∧ found.whole <+: text

/-!
## Replacement as a relation
-/

inductive Replaces (find? : Text → Option Credential) : Text → Text → Prop where
  | nil : Replaces find? [] []
  | keep {char : Char} {rest out : Text} :
      find? (char :: rest) = none → Replaces find? rest out →
      Replaces find? (char :: rest) (char :: out)
  | hide {found : Credential} {rest out : Text} :
      find? (found.whole ++ rest) = some found → Replaces find? rest out →
      Replaces find? (found.whole ++ rest) (found.masked ++ out)

theorem replaceFrom_append (passed rest : Text) :
    replaceFrom find? passed.length (passed ++ rest) = replaceFrom find? 0 rest := by
  induction passed with
  | nil => rfl
  | cons char passed ih => exact ih

theorem length_whole (found : Credential) : found.whole.length = found.size := by
  simp only [Credential.whole, Credential.size, List.length_append]

theorem replaceFrom_of_found {found : Credential} {rest : Text} (filled : found.before ≠ [])
    (known : find? (found.whole ++ rest) = some found) :
    replaceFrom find? 0 (found.whole ++ rest) = found.masked ++ replaceFrom find? 0 rest := by
  cases written : found.whole with
  | nil => simp [Credential.whole, filled] at written
  | cons first more =>
      have skipped : found.size - 1 = more.length := by
        rw [← length_whole, written, List.length_cons, Nat.add_sub_cancel]
      rw [written, List.cons_append] at known
      simp only [List.cons_append, replaceFrom, known, skipped, replaceFrom_append]

theorem replaceFrom_of_none {char : Char} {rest : Text} (missing : find? (char :: rest) = none) :
    replaceFrom find? 0 (char :: rest) = char :: replaceFrom find? 0 rest := by
  simp only [replaceFrom, missing]

theorem replaces_replaceFrom (atFront : FindsAtFront find?) (text : Text) :
    Replaces find? text (replaceFrom find? 0 text) := by
  match text with
  | [] => exact .nil
  | char :: rest =>
      cases known : find? (char :: rest) with
      | none =>
          rw [replaceFrom_of_none known]
          exact .keep known (replaces_replaceFrom atFront rest)
      | some found =>
          obtain ⟨filled, after, written⟩ := atFront _ _ known
          have shorter : after.length < rest.length + 1 := by
            have sizes := congrArg List.length written
            have positive := List.length_pos_iff.mpr filled
            simp only [Credential.whole, List.length_append, List.length_cons] at sizes
            omega
          rw [← written] at known ⊢
          rw [replaceFrom_of_found filled known]
          exact .hide known (replaces_replaceFrom atFront after)
termination_by text.length

namespace Replaces

variable {text out : Text}

theorem eq_replaceFrom (atFront : FindsAtFront find?) (replaces : Replaces find? text out) :
    out = replaceFrom find? 0 text := by
  induction replaces with
  | nil => rfl
  | keep missing _ ih => rw [replaceFrom_of_none missing, ih]
  | hide known _ ih => rw [replaceFrom_of_found (atFront _ _ known).1 known, ih]

/-- A replacement brings in no characters but those of the mask. -/
theorem mem_or_mem_mask (replaces : Replaces find? text out) {char : Char} (member : char ∈ out) :
    char ∈ text ∨ char ∈ Credential.mask := by
  induction replaces with
  | nil => exact .inl member
  | keep _ _ ih =>
      rcases List.mem_cons.mp member with rfl | member
      · exact .inl List.mem_cons_self
      · exact (ih member).imp_left (List.mem_cons_of_mem _)
  | hide _ _ ih =>
      simp only [Credential.masked, Credential.whole, List.mem_append] at member ⊢
      rcases member with ((before | mask) | after) | member
      · exact .inl (.inl (.inl (.inl before)))
      · exact .inr mask
      · exact .inl (.inl (.inr after))
      · exact (ih member).imp_left .inr

/-- A replacement keeps the first character. -/
theorem head? (atFront : FindsAtFront find?) (replaces : Replaces find? text out) :
    out.head? = text.head? := by
  cases replaces with
  | nil => rfl
  | keep => rfl
  | @hide found rest out known _ =>
      obtain ⟨filled, -⟩ := atFront _ _ known
      obtain ⟨first, more, written⟩ := List.exists_cons_of_ne_nil filled
      rw [Credential.masked, Credential.whole, written]
      rfl

end Replaces

/-!
## Text in which nothing is found
-/

/-- Nothing is found at any place of `front` when `rest` follows it. -/
def Quiet (find? : Text → Option Credential) : Text → Text → Prop
  | [], _ => True
  | char :: front, rest => find? (char :: (front ++ rest)) = none ∧ Quiet find? front rest

instance decidableQuiet (find? : Text → Option Credential) :
    (front rest : Text) → Decidable (Quiet find? front rest)
  | [], _ => .isTrue trivial
  | _ :: front, rest =>
    have := decidableQuiet find? front rest
    inferInstanceAs (Decidable (_ ∧ _))

theorem quiet_append_iff {front middle rest : Text} :
    Quiet find? (front ++ middle) rest ↔
      Quiet find? front (middle ++ rest) ∧ Quiet find? middle rest := by
  induction front with
  | nil => simp [Quiet]
  | cons char front ih => simp only [List.cons_append, Quiet, ih, List.append_assoc, and_assoc]

theorem Quiet.replaceFrom_append {front rest : Text} (quiet : Quiet find? front rest) :
    replaceFrom find? 0 (front ++ rest) = front ++ replaceFrom find? 0 rest := by
  induction front with
  | nil => rfl
  | cons char front ih =>
      rw [List.cons_append, replaceFrom_of_none quiet.1, ih quiet.2, List.cons_append]

/-!
## Texts whose credentials are masked
-/

/-- Whatever is found anywhere in the text is the mask. -/
def Sealed (find? : Text → Option Credential) (text : Text) : Prop :=
  ∀ before rest found, text = before ++ rest → find? rest = some found →
    found.hidden = Credential.mask

theorem Sealed.of_append (before : Text) {text : Text}
    (sealedText : Sealed find? (before ++ text)) : Sealed find? text := by
  intro front rest found written known
  exact sealedText (before ++ front) rest found (by rw [written, List.append_assoc]) known

theorem Sealed.replaceFrom_eq (atFront : FindsAtFront find?) {text : Text}
    (sealedText : Sealed find? text) : replaceFrom find? 0 text = text := by
  have replaces := replaces_replaceFrom atFront text
  generalize replaceFrom find? 0 text = out at replaces
  induction replaces with
  | nil => rfl
  | @keep char rest out _ _ ih => rw [ih (Sealed.of_append [char] sealedText)]
  | @hide found rest out known _ ih =>
      have hidden : found.hidden = Credential.mask := sealedText [] _ found rfl known
      rw [ih (sealedText.of_append _), Credential.masked, Credential.whole, hidden]

end Redaction

end ConnectionUri.Log
