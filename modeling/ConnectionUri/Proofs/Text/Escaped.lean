import ConnectionUri.Text.Blank
import ConnectionUri.Text.Quoted

/-!
# Characters of quoted texts

A quoted text holds the printable characters of the text, its quote, and the characters that escapes
are written with. So a mark that is none of these stands in the quoted text only where it stands in
the text, and no white space but the ASCII space is left.
-/

set_option autoImplicit false

/-!
## Digits
-/

namespace ConnectionUri.Text

theorem mem_toDigitsCore {fuel value : Nat} {digits : Text} {char : Char}
    (member : char ∈ Nat.toDigitsCore 16 fuel value digits) :
    char ∈ digits ∨ ∃ digit < 16, char = Nat.digitChar digit := by
  induction fuel generalizing value digits with
  | zero => exact .inl member
  | succ fuel ih =>
      have first : ∀ other ∈ Nat.digitChar (value % 16) :: digits,
          other ∈ digits ∨ ∃ digit < 16, other = Nat.digitChar digit := by
        intro other known
        rcases List.mem_cons.mp known with rfl | known
        · exact .inr ⟨value % 16, Nat.mod_lt _ (by decide), rfl⟩
        · exact .inl known
      rw [Nat.toDigitsCore] at member
      split at member
      · exact first char member
      · rcases ih member with known | digit
        · exact first char known
        · exact .inr digit

theorem mem_hexPadded {width value : Nat} {char : Char} (member : char ∈ hexPadded width value) :
    ∃ digit < 16, char = Nat.digitChar digit := by
  rcases List.mem_append.mp member with member | member
  · exact ⟨0, by decide, List.eq_of_mem_replicate member⟩
  · rcases mem_toDigitsCore member with none | digit
    · cases none
    · exact digit

end ConnectionUri.Text

/-!
## Escapes
-/

namespace ConnectionUri.Text

/-- A text as it stands between quotes. -/
def escaped (quote : Char) (text : Text) : Text := text.flatMap (quotedChar isPrintable quote)

theorem quoted_eq_escaped (text : Text) :
    quoted text = quoteFor text :: escaped (quoteFor text) text ++ [quoteFor text] := rfl

theorem escaped_append (quote : Char) (left right : Text) :
    escaped quote (left ++ right) = escaped quote left ++ escaped quote right :=
  List.flatMap_append

/-- The two quotes. -/
def IsQuote (quote : Char) : Prop := quote = singleQuote ∨ quote = doubleQuote

theorem isQuote_quoteFor (text : Text) : IsQuote (quoteFor text) := by
  unfold quoteFor
  split
  · exact .inr rfl
  · exact .inl rfl

/-- The characters that escapes are written with. -/
def escapeChars : Text := "\\nrtxuU0123456789abcdef".toList

theorem codePointEscape_cases (code : Nat) :
    ∃ letter ∈ ['x', 'u', 'U'], ∃ width,
      codePointEscape code = '\\' :: letter :: hexPadded width code := by
  unfold codePointEscape
  split
  · exact ⟨'x', by decide, 2, rfl⟩
  · split
    · exact ⟨'u', by decide, 4, rfl⟩
    · exact ⟨'U', by decide, 8, rfl⟩

theorem mem_escapeChars_of_codePointEscape {code : Nat} {char : Char}
    (member : char ∈ codePointEscape code) : char ∈ escapeChars := by
  obtain ⟨letter, known, width, written⟩ := codePointEscape_cases code
  rw [written, List.mem_cons, List.mem_cons] at member
  rcases member with rfl | rfl | member
  · decide
  · have letters : ['x', 'u', 'U'] ⊆ escapeChars := by decide
    exact letters known
  · have digits : ∀ digit < 16, Nat.digitChar digit ∈ escapeChars := by decide
    obtain ⟨digit, small, rfl⟩ := mem_hexPadded member
    exact digits digit small

theorem quotedChar_cases (quote char : Char) :
    (∃ letter ∈ [quote, '\\', 'n', 'r', 't'],
      quotedChar isPrintable quote char = ['\\', letter]) ∨
    (isPrintable char = true ∧ quotedChar isPrintable quote char = [char]) ∨
    quotedChar isPrintable quote char = codePointEscape char.toNat := by
  unfold quotedChar
  split
  · next special => exact .inl ⟨char, by rcases special with rfl | rfl <;> simp, rfl⟩
  · split
    · exact .inl ⟨'n', by simp, rfl⟩
    · split
      · exact .inl ⟨'r', by simp, rfl⟩
      · split
        · exact .inl ⟨'t', by simp, rfl⟩
        · split
          · next printable => exact .inr (.inl ⟨printable, rfl⟩)
          · exact .inr (.inr rfl)

/-- A character inside quotes is printable and stands for itself, or it is the quote, or an escape
is written with it. -/
theorem mem_quotedChar {quote char other : Char}
    (member : other ∈ quotedChar isPrintable quote char) :
    (other = char ∧ isPrintable other = true) ∨ other = quote ∨ other ∈ escapeChars := by
  rcases quotedChar_cases quote char with ⟨letter, known, written⟩ | ⟨printable, written⟩ | written
  · have letters : ['\\', 'n', 'r', 't'] ⊆ escapeChars := by decide
    rw [written, List.mem_cons, List.mem_singleton] at member
    rcases member with rfl | rfl
    · exact .inr (.inr (letters (.head _)))
    · exact .inr ((List.mem_cons.mp known).imp_right fun known => letters known)
  · rw [written, List.mem_singleton] at member
    exact .inl ⟨member, member ▸ printable⟩
  · exact .inr (.inr (mem_escapeChars_of_codePointEscape (written ▸ member)))

theorem mem_escaped {quote other : Char} {text : Text} (member : other ∈ escaped quote text) :
    (other ∈ text ∧ isPrintable other = true) ∨ other = quote ∨ other ∈ escapeChars := by
  obtain ⟨char, known, inside⟩ := List.mem_flatMap.mp member
  rcases mem_quotedChar inside with ⟨rfl, printable⟩ | special
  · exact .inl ⟨known, printable⟩
  · exact .inr special

/-- A mark that is no quote and that escapes are not written with. -/
theorem not_mem_escaped {quote mark : Char} {text : Text} (isQuote : IsQuote quote)
    (outside : mark ∉ singleQuote :: doubleQuote :: escapeChars) (absent : mark ∉ text) :
    mark ∉ escaped quote text := by
  intro member
  rw [List.mem_cons, List.mem_cons, not_or, not_or] at outside
  rcases mem_escaped member with ⟨known, -⟩ | rfl | known
  · exact absent known
  · rcases isQuote with rfl | rfl
    · exact outside.1 rfl
    · exact outside.2.1 rfl
  · exact outside.2.2 known

theorem escaped_ne_nil {text : Text} (filled : text ≠ []) (quote : Char) : escaped quote text ≠ [] := by
  obtain ⟨first, rest, rfl⟩ := List.exists_cons_of_ne_nil filled
  have written : escaped quote (first :: rest) =
      quotedChar isPrintable quote first ++ escaped quote rest := List.flatMap_cons
  rw [written]
  rcases quotedChar_cases quote first with ⟨letter, -, same⟩ | ⟨-, same⟩ | same
  · simp [same]
  · simp [same]
  · obtain ⟨letter, -, width, code⟩ := codePointEscape_cases first.toNat
    simp [same, code]

end ConnectionUri.Text

/-!
## White space
-/

namespace ConnectionUri.Text

theorem eq_space_of_isBlank {char : Char} (printable : isPrintable char = true)
    (blank : isBlank char = true) : char = ' ' := by
  have narrow : ∀ range ∈ blankRanges, range.2 ≤ range.1 + 10 := by decide
  have unprintable : ∀ range ∈ blankRanges, ∀ offset < 11, range.1 + offset ≤ range.2 →
      isPrintable (Char.ofNat (range.1 + offset)) = true → range.1 + offset = 32 := by
    decide +kernel
  obtain ⟨⟨first, last⟩, known, within⟩ := List.any_eq_true.mp blank
  simp only [Bool.and_eq_true, decide_eq_true_eq] at within
  have width := narrow _ known
  have code : first + (char.toNat - first) = char.toNat := by omega
  have only := unprintable _ known (char.toNat - first) (by simp only at width; omega)
  simp only [code, Char.ofNat_toNat] at only
  have space : char.toNat = ' '.toNat := only within.2 printable
  exact Char.toNat_inj.mp space

theorem isBlank_eq_false_of_mem_escaped {quote other : Char} {text : Text} (isQuote : IsQuote quote)
    (noSpace : ' ' ∉ text) (member : other ∈ escaped quote text) : isBlank other = false := by
  rcases mem_escaped member with ⟨known, printable⟩ | rfl | known
  · cases blank : isBlank other with
    | false => rfl
    | true => exact absurd (eq_space_of_isBlank printable blank ▸ known) noSpace
  · rcases isQuote with rfl | rfl <;> decide
  · have plain : escapeChars.all (!isBlank ·) = true := by decide
    simpa using List.all_eq_true.mp plain other known

theorem space_mem_escaped {quote : Char} {text : Text} (isQuote : IsQuote quote)
    (member : ' ' ∈ text) : ' ' ∈ escaped quote text := by
  refine List.mem_flatMap.mpr ⟨' ', member, ?_⟩
  rcases isQuote with rfl | rfl <;> decide

end ConnectionUri.Text
