/-!
# Texts

A text is a list of characters, so every rule below is a recursion on the text itself.
Positions and lengths count characters.
-/

set_option autoImplicit false

namespace ConnectionUri

/-- A text is a list of characters. -/
abbrev Text := List Char

namespace Text

def isWithin (ranges : List (Nat × Nat)) (char : Char) : Bool :=
  ranges.any fun (first, last) => first ≤ char.toNat && char.toNat ≤ last

/-- A statement about every ASCII character, checked code point by code point. -/
theorem forall_ascii {motive : Char → Prop}
    (checked : ∀ code, code < 128 → motive (Char.ofNat code)) (char : Char)
    (ascii : char.toNat < 128) : motive char := by
  simpa only [Char.ofNat_toNat] using checked char.toNat ascii

/-- What stands before the first `mark`, and what follows that mark if there is one. -/
def cut (mark : Char) : Text → Text × Option Text
  | [] => ([], none)
  | char :: rest =>
    if char = mark then ([], some rest)
    else
      let (before, after) := cut mark rest
      (char :: before, after)

/-- The text without one line feed at its end. -/
def dropFinalNewline : Text → Text
  | [] => []
  | ['\n'] => []
  | char :: rest => char :: dropFinalNewline rest

/-- The text that follows `start`, if the text begins with it. -/
def afterStart? : Text → Text → Option Text
  | [], text => some text
  | _ :: _, [] => none
  | expected :: start, char :: rest => if char = expected then afterStart? start rest else none

/-- The text with a filling put before it up to a width. -/
def padLeft (fill : Char) (width : Nat) (text : Text) : Text :=
  List.replicate (width - text.length) fill ++ text

/-- The text with a filling put after it up to a width. -/
def padRight (fill : Char) (width : Nat) (text : Text) : Text :=
  text ++ List.replicate (width - text.length) fill

/-- The texts of a list with a separator between neighbours. -/
def joined (separator : Text) (texts : List Text) : Text :=
  List.intercalate separator texts

/-- Code-point order on texts: the first difference decides, and a proper beginning comes first. -/
def precedes : Text → Text → Bool
  | _, [] => false
  | [], _ :: _ => true
  | left :: lefts, right :: rights =>
    left.toNat < right.toNat || (left.toNat == right.toNat && precedes lefts rights)

/-- Nothing is lost by a cut: the mark stands between the two parts. -/
theorem cut_eq_some {mark : Char} {text before after : Text}
    (found : cut mark text = (before, some after)) :
    text = before ++ mark :: after := by
  induction text generalizing before with
  | nil => simp [cut] at found
  | cons char rest ih =>
    by_cases same : char = mark
    · simp only [cut, same, if_true, Prod.mk.injEq, Option.some.injEq] at found
      simp [← found.1, ← found.2, same]
    · simp only [cut, same, if_false, Prod.mk.injEq] at found
      rw [← found.1, List.cons_append, ← ih (Prod.ext rfl found.2)]

/-- A text without the mark is the whole first part of its cut. -/
theorem cut_eq_none {mark : Char} {text before : Text}
    (missing : cut mark text = (before, none)) : text = before ∧ mark ∉ text := by
  induction text generalizing before with
  | nil => simp_all [cut]
  | cons char rest ih =>
    by_cases same : char = mark
    · simp [cut, same] at missing
    · simp only [cut, same, if_false, Prod.mk.injEq] at missing
      obtain ⟨whole, absent⟩ := ih (Prod.ext rfl missing.2)
      refine ⟨missing.1 ▸ congrArg (char :: ·) whole, ?_⟩
      simp [absent, Ne.symm same]

/-- The first part of a cut is free of the mark. -/
theorem not_mem_cut (mark : Char) (text : Text) : mark ∉ (cut mark text).1 := by
  induction text with
  | nil => simp [cut]
  | cons char rest ih =>
    by_cases same : char = mark
    · simp [cut, same]
    · simp [cut, same, ih, Ne.symm same]

/-- A beginning without the mark stays before the cut. -/
theorem cut_append {mark : Char} {before : Text} (absent : mark ∉ before) (after : Text) :
    cut mark (before ++ after) = (before ++ (cut mark after).1, (cut mark after).2) := by
  induction before with
  | nil => rfl
  | cons char rest ih =>
    simp only [List.mem_cons, not_or] at absent
    simp [cut, Ne.symm absent.1, ih absent.2]

/-- A text without the mark is not cut. -/
theorem cut_of_not_mem {mark : Char} {text : Text} (absent : mark ∉ text) :
    cut mark text = (text, none) := by
  simpa [cut] using cut_append absent []

/-- A text is cut at the first mark. -/
theorem cut_append_cons {mark : Char} {before : Text} (absent : mark ∉ before) (after : Text) :
    cut mark (before ++ mark :: after) = (before, some after) := by
  simpa [cut] using cut_append absent (mark :: after)

@[simp] theorem dropFinalNewline_append (text : Text) :
    dropFinalNewline (text ++ ['\n']) = text := by
  induction text with
  | nil => rfl
  | cons char rest ih => cases rest <;> simp_all [dropFinalNewline]

theorem dropFinalNewline_append_of_ne {last : Char} (differs : last ≠ '\n') (text : Text) :
    dropFinalNewline (text ++ [last]) = text ++ [last] := by
  induction text with
  | nil => simp [dropFinalNewline, differs]
  | cons char rest ih => cases rest <;> simp_all [dropFinalNewline]

theorem dropFinalNewline_append_cons {mark : Char} (differs : mark ≠ '\n') (before after : Text) :
    dropFinalNewline (before ++ mark :: after) = before ++ mark :: dropFinalNewline after := by
  induction before with
  | nil => cases after <;> simp [dropFinalNewline, differs]
  | cons char rest ih => cases rest <;> simp_all [dropFinalNewline]

/-- A text is its own trimmed form, or that form with the line feed that was dropped. -/
theorem dropFinalNewline_cases (text : Text) :
    dropFinalNewline text = text ∧ ¬ ['\n'] <:+ text ∨
      text = dropFinalNewline text ++ ['\n'] := by
  rcases text.eq_nil_or_concat with rfl | ⟨front, last, rfl⟩
  · exact .inl ⟨rfl, by simp⟩
  · rw [List.concat_eq_append]
    by_cases newline : last = '\n'
    · subst newline
      exact .inr (by rw [dropFinalNewline_append])
    · refine .inl ⟨dropFinalNewline_append_of_ne newline front, ?_⟩
      rintro ⟨before, same⟩
      have lasts : ['\n'] = [last] := List.append_inj_right' same rfl
      exact newline (List.singleton_inj.mp lasts).symm

theorem dropFinalNewline_of_not_suffix {text : Text} (ended : ¬ ['\n'] <:+ text) :
    dropFinalNewline text = text := by
  rcases dropFinalNewline_cases text with ⟨same, -⟩ | newline
  · exact same
  · exact absurd (newline ▸ List.suffix_append _ _) ended

theorem mem_dropFinalNewline {text : Text} {char : Char} (member : char ∈ text) :
    char ∈ dropFinalNewline text ∨ char = '\n' ∧ ['\n'] <:+ text := by
  rcases dropFinalNewline_cases text with ⟨same, -⟩ | ended
  · exact .inl (same.symm ▸ member)
  · rw [ended, List.mem_append, List.mem_singleton] at member
    exact member.imp id fun same => ⟨same, ended ▸ List.suffix_append _ _⟩

end Text

end ConnectionUri
