import ConnectionUri.Proofs.Log.Replacement

/-!
# Credentials

What the two searches for credentials find, written as shapes of texts. `keyed?_eq_some_iff` and
`userInfo?_eq_some_iff` say that the searches find exactly these shapes, and in one way only.
-/

set_option autoImplicit false

/-!
## Values after keys
-/

namespace ConnectionUri.Log.Redaction

/-- A key in any case. -/
def IsKey (word : Text) : Prop := word.map foldLetter ∈ keys

instance (word : Text) : Decidable (IsKey word) := inferInstanceAs (Decidable (_ ∈ keys))

def isSign (char : Char) : Bool := char == '=' || char == ':'

/-- The texts that announce a value: a key, white space, a sign, and white space. -/
inductive IsLabel : Text → Prop where
  | intro {word gap space : Text} {sign : Char} :
      IsKey word → (∀ char ∈ gap, Text.isBlank char = true) → isSign sign = true →
      (∀ char ∈ space, Text.isBlank char = true) → IsLabel (word ++ gap ++ sign :: space)

/-- Whether a character occurs in some label. -/
def isLabelChar (char : Char) : Bool :=
  keys.any (·.contains (foldLetter char)) || Text.isBlank char || isSign char

theorem isLabelChar_of_mem_key {word : Text} (key : IsKey word) {char : Char}
    (member : char ∈ word) : isLabelChar char = true := by
  have inKey : foldLetter char ∈ word.map foldLetter := List.mem_map_of_mem member
  have found : keys.any (·.contains (foldLetter char)) = true :=
    List.any_eq_true.mpr ⟨_, key, List.contains_iff_mem.mpr inKey⟩
  rw [isLabelChar, found]
  rfl

theorem isLabelChar_of_isBlank {char : Char} (blank : Text.isBlank char = true) :
    isLabelChar char = true := by
  simp [isLabelChar, blank]

theorem isLabelChar_of_isSign {char : Char} (sign : isSign char = true) :
    isLabelChar char = true := by
  simp [isLabelChar, sign]

namespace IsLabel

variable {label : Text}

theorem ne_nil (announces : IsLabel label) : label ≠ [] := by
  cases announces
  simp

theorem isLabelChar (announces : IsLabel label) {char : Char} (member : char ∈ label) :
    isLabelChar char = true := by
  cases announces with
  | @intro word gap space sign key ofGap ofSign ofSpace =>
      simp only [List.mem_append, List.mem_cons] at member
      rcases member with (member | member) | rfl | member
      · exact isLabelChar_of_mem_key key member
      · exact isLabelChar_of_isBlank (ofGap char member)
      · exact isLabelChar_of_isSign ofSign
      · exact isLabelChar_of_isBlank (ofSpace char member)

theorem not_mem (announces : IsLabel label) {char : Char}
    (outside : Redaction.isLabelChar char = false) : char ∉ label := by
  intro member
  rw [announces.isLabelChar member] at outside
  cases outside

end IsLabel

theorem not_isSign_of_mem_key {word : Text} (key : IsKey word) {char : Char}
    (member : char ∈ word) : isSign char = false := by
  have outside : ∀ word ∈ keys, foldLetter '=' ∉ word ∧ foldLetter ':' ∉ word := by decide
  obtain ⟨noEquals, noColon⟩ := outside _ key
  have inKey : foldLetter char ∈ word.map foldLetter := List.mem_map_of_mem member
  simp only [isSign, Bool.or_eq_false_iff, beq_eq_false_iff_ne, ne_eq]
  exact ⟨fun same => noEquals (same ▸ inKey), fun same => noColon (same ▸ inKey)⟩

theorem not_isBlank_of_isSign {char : Char} (sign : isSign char = true) :
    Text.isBlank char = false := by
  simp only [isSign, Bool.or_eq_true, beq_iff_eq] at sign
  rcases sign with rfl | rfl <;> decide

theorem isBlank_eq_false_of_isValueChar {char : Char} (value : isValueChar char = true) :
    Text.isBlank char = false := by
  simp only [isValueChar, Bool.and_eq_true, Bool.not_eq_true'] at value
  exact value.1

/-- What follows the sign of a label is white space. -/
theorem IsLabel.isBlank_of_sign {before after : Text} {sign : Char}
    (announces : IsLabel (before ++ sign :: after)) (ofSign : isSign sign = true) :
    ∀ char ∈ after, Text.isBlank char = true := by
  generalize written : before ++ sign :: after = label at announces
  cases announces with
  | @intro word gap space other key ofGap _ ofSpace =>
      have noSign : ∀ char ∈ word ++ gap, isSign char = false := by
        intro char member
        rcases List.mem_append.mp member with member | member
        · exact not_isSign_of_mem_key key member
        · cases isSignToo : isSign char with
          | false => rfl
          | true =>
              have plain := not_isBlank_of_isSign isSignToo
              rw [ofGap char member] at plain
              cases plain
      rcases List.append_eq_append_iff.mp written with ⟨middle, same, rest⟩ | ⟨middle, same, rest⟩
      · cases middle with
        | nil => exact (List.cons.inj rest).2 ▸ ofSpace
        | cons first more =>
            obtain ⟨rfl, -⟩ := List.cons.inj rest
            have member : sign ∈ word ++ gap := by
              rw [same]
              exact List.mem_append_right _ List.mem_cons_self
            have plain := noSign sign member
            rw [ofSign] at plain
            cases plain
      · cases middle with
        | nil => exact (List.cons.inj rest).2 ▸ ofSpace
        | cons first more =>
            obtain ⟨-, tail⟩ := List.cons.inj rest
            have inSpace : sign ∈ space := by
              rw [tail]
              exact List.mem_append_right _ List.mem_cons_self
            have plain := not_isBlank_of_isSign ofSign
            rw [ofSpace sign inSpace] at plain
            cases plain

theorem afterKey?_eq_some_iff {key text rest : Text} :
    afterKey? key text = some rest ↔ ∃ word, text = word ++ rest ∧ word.map foldLetter = key := by
  induction key generalizing text with
  | nil =>
      simp only [afterKey?, Option.some.injEq, List.map_eq_nil_iff]
      constructor
      · intro same
        exact ⟨[], same, rfl⟩
      · rintro ⟨_, same, rfl⟩
        exact same
  | cons letter key ih =>
      cases text with
      | nil => simp [afterKey?]
      | cons char text =>
          simp only [afterKey?]
          split
          · next same =>
              rw [ih]
              constructor
              · rintro ⟨word, rfl, rfl⟩
                exact ⟨char :: word, rfl, by rw [List.map_cons, same]⟩
              · rintro ⟨word, written, folded⟩
                cases word with
                | nil => cases folded
                | cons first more =>
                    exact ⟨more, (List.cons.inj written).2, (List.cons.inj folded).2⟩
          · next differs =>
              simp only [reduceCtorEq, false_iff, not_exists, not_and]
              rintro (_ | ⟨first, more⟩) written folded
              · cases folded
              · rw [← (List.cons.inj written).1] at folded
                exact differs (List.cons.inj folded).1

/-- A text begins with one key at most. -/
theorem eq_of_afterKey? {text key other rest tail : Text} (known : key ∈ keys)
    (otherKnown : other ∈ keys) (found : afterKey? key text = some rest)
    (foundToo : afterKey? other text = some tail) : key = other := by
  have unrelated : ∀ left ∈ keys, ∀ right ∈ keys, left <+: right → left = right := by decide
  obtain ⟨word, written, rfl⟩ := afterKey?_eq_some_iff.mp found
  obtain ⟨second, writtenToo, rfl⟩ := afterKey?_eq_some_iff.mp foundToo
  have first : word <+: text := ⟨rest, written.symm⟩
  have next : second <+: text := ⟨tail, writtenToo.symm⟩
  rcases List.prefix_or_prefix_of_prefix first next with shorter | longer
  · exact unrelated _ known _ otherKnown (shorter.map foldLetter)
  · exact (unrelated _ otherKnown _ known (longer.map foldLetter)).symm

theorem keyedWith?_append (word : Text) {gap space : Text} {sign first : Char}
    (ofGap : ∀ char ∈ gap, Text.isBlank char = true) (ofSign : isSign sign = true)
    (ofSpace : ∀ char ∈ space, Text.isBlank char = true) (value : isValueChar first = true)
    (more : Text) :
    keyedWith? (word ++ gap ++ sign :: space ++ first :: more) (word.map foldLetter) =
      some ⟨word ++ gap ++ sign :: space, first :: more.takeWhile isValueChar, []⟩ := by
  have found : afterKey? (word.map foldLetter) (word ++ gap ++ sign :: space ++ first :: more) =
      some (gap ++ sign :: (space ++ first :: more)) :=
    afterKey?_eq_some_iff.mpr ⟨word, by simp, rfl⟩
  have noBlank := not_isBlank_of_isSign ofSign
  have noSpace := isBlank_eq_false_of_isValueChar value
  have isSignToo : (sign == '=' || sign == ':') = true := ofSign
  simp only [keyedWith?, found, List.dropWhile_append_of_pos ofGap,
    List.takeWhile_append_of_pos ofGap, List.dropWhile_cons, List.takeWhile_cons, noBlank,
    List.dropWhile_append_of_pos ofSpace, List.takeWhile_append_of_pos ofSpace, noSpace, value,
    isSignToo, Bool.false_eq_true, if_true, if_false, List.isEmpty_cons, Bool.not_false,
    Bool.and_true]
  simp

theorem exists_label_of_keyedWith? {text key : Text} {found : Credential} (known : key ∈ keys)
    (searched : keyedWith? text key = some found) :
    ∃ label first more, IsLabel label ∧ isValueChar first = true ∧ text = label ++ first :: more := by
  unfold keyedWith? at searched
  cases after : afterKey? key text with
  | none => simp [after] at searched
  | some rest =>
      obtain ⟨word, rfl, rfl⟩ := afterKey?_eq_some_iff.mp after
      simp only [after] at searched
      cases announced : rest.dropWhile Text.isBlank with
      | nil => simp [announced] at searched
      | cons sign value =>
          simp only [announced] at searched
          split at searched
          · next accepted =>
              rw [Bool.and_eq_true] at accepted
              cases begun : value.dropWhile Text.isBlank with
              | nil => simp [begun] at accepted
              | cons first more =>
                  have isValue : isValueChar first = true := by
                    apply Classical.byContradiction
                    intro noValue
                    simp [begun, noValue] at accepted
                  refine ⟨word ++ rest.takeWhile Text.isBlank ++
                    sign :: value.takeWhile Text.isBlank, first, more,
                    .intro known (fun _ => List.all_eq_true.mp List.all_takeWhile _) accepted.1
                      (fun _ => List.all_eq_true.mp List.all_takeWhile _), isValue, ?_⟩
                  calc word ++ rest
                      = word ++ (rest.takeWhile Text.isBlank ++ sign :: value) := by
                        rw [← announced, List.takeWhile_append_dropWhile]
                    _ = word ++ (rest.takeWhile Text.isBlank ++
                          sign :: (value.takeWhile Text.isBlank ++ first :: more)) := by
                        rw [← begun, List.takeWhile_append_dropWhile]
                    _ = _ := by simp
          · cases searched

/-- A value character after a label is the beginning of a credential. -/
theorem keyed?_label_append {label : Text} {first : Char} (announces : IsLabel label)
    (value : isValueChar first = true) (more : Text) :
    keyed? (label ++ first :: more) = some ⟨label, first :: more.takeWhile isValueChar, []⟩ := by
  cases announces with
  | @intro word gap space sign key ofGap ofSign ofSpace =>
      have searched := keyedWith?_append word ofGap ofSign ofSpace value more
      cases result : keyed? (word ++ gap ++ sign :: space ++ first :: more) with
      | none =>
          rw [List.findSome?_eq_none_iff.mp result _ key] at searched
          cases searched
      | some found =>
          obtain ⟨other, known, searchedToo⟩ := List.exists_of_findSome?_eq_some result
          have same : other = word.map foldLetter := by
            cases after : afterKey? other (word ++ gap ++ sign :: space ++ first :: more) with
            | none =>
                simp only [keyedWith?, after] at searchedToo
                cases searchedToo
            | some rest =>
                exact eq_of_afterKey? known key after
                  (afterKey?_eq_some_iff.mpr ⟨word, List.append_assoc _ _ _ |>.trans
                    (List.append_assoc _ _ _), rfl⟩)
          rw [same, searched] at searchedToo
          exact searchedToo.symm

theorem keyed?_eq_some_iff {text : Text} {found : Credential} :
    keyed? text = some found ↔ ∃ label first more, IsLabel label ∧ isValueChar first = true ∧
      text = label ++ first :: more ∧
      found = ⟨label, first :: more.takeWhile isValueChar, []⟩ := by
  constructor
  · intro searched
    obtain ⟨key, known, searchedToo⟩ := List.exists_of_findSome?_eq_some searched
    obtain ⟨label, first, more, announces, value, rfl⟩ :=
      exists_label_of_keyedWith? known searchedToo
    rw [keyed?_label_append announces value more] at searched
    exact ⟨label, first, more, announces, value, rfl, (Option.some.inj searched).symm⟩
  · rintro ⟨label, first, more, announces, value, rfl, rfl⟩
    exact keyed?_label_append announces value more

theorem keyed?_atFront : FindsAtFront keyed? := by
  intro text found searched
  obtain ⟨label, first, more, announces, -, rfl, rfl⟩ := keyed?_eq_some_iff.mp searched
  refine ⟨announces.ne_nil, more.dropWhile isValueChar, ?_⟩
  simp [Credential.whole, List.takeWhile_append_dropWhile]

end ConnectionUri.Log.Redaction

/-!
## Whole values
-/

namespace ConnectionUri.Log.Redaction

theorem takeWhile_of_head? {class? : Char → Bool} {rest : Text}
    (ended : ∀ char ∈ rest.head?, class? char = false) : rest.takeWhile class? = [] := by
  cases rest with
  | nil => rfl
  | cons first more => rw [List.takeWhile_cons, ended first rfl, if_neg Bool.false_ne_true]

/-- A value after a key, up to where `rest` follows it. -/
structure IsValue (value rest : Text) : Prop where
  filled : value ≠ []
  chars : ∀ char ∈ value, isValueChar char = true
  ended : ∀ char ∈ rest.head?, isValueChar char = false

instance (value rest : Text) : Decidable (IsValue value rest) :=
  decidable_of_iff
    (value ≠ [] ∧ value.all isValueChar = true ∧ rest.head?.all (!isValueChar ·) = true) <| by
      simp only [List.all_eq_true, Option.all_eq_true, Bool.not_eq_true']
      exact ⟨fun ⟨filled, chars, ended⟩ => ⟨filled, chars, ended⟩,
        fun isValue => ⟨isValue.filled, isValue.chars, isValue.ended⟩⟩

namespace IsValue

variable {value rest : Text}

theorem takeWhile_eq (isValue : IsValue value rest) :
    (value ++ rest).takeWhile isValueChar = value := by
  rw [List.takeWhile_append_of_pos isValue.chars, takeWhile_of_head? isValue.ended, List.append_nil]

theorem unique {other after : Text} (isValue : IsValue value rest) (isValueToo : IsValue other after)
    (same : value ++ rest = other ++ after) : value = other ∧ rest = after := by
  have values : value = other := by
    rw [← isValue.takeWhile_eq, same, isValueToo.takeWhile_eq]
  exact ⟨values, List.append_cancel_left (values ▸ same)⟩

theorem append_left {front : Text} (isValue : IsValue value rest)
    (chars : ∀ char ∈ front, isValueChar char = true) : IsValue (front ++ value) rest where
  filled := List.append_ne_nil_of_right_ne_nil _ isValue.filled
  chars := List.forall_mem_append.mpr ⟨chars, isValue.chars⟩
  ended := isValue.ended

theorem of_rest {middle left right : Text} (isValue : IsValue value (middle ++ left))
    (filled : middle ≠ []) : IsValue value (middle ++ right) where
  filled := isValue.filled
  chars := isValue.chars
  ended := by
    obtain ⟨first, more, rfl⟩ := List.exists_cons_of_ne_nil filled
    exact isValue.ended

theorem unblank (isValue : IsValue value rest) :
    ∀ char ∈ (value ++ rest).head?, Text.isBlank char = false := by
  obtain ⟨first, more, rfl⟩ := List.exists_cons_of_ne_nil isValue.filled
  rintro _ ⟨⟩
  exact isBlank_eq_false_of_isValueChar (isValue.chars first List.mem_cons_self)

end IsValue

theorem keyed?_value_iff {text : Text} {found : Credential} :
    keyed? text = some found ↔ ∃ label value rest, IsLabel label ∧ IsValue value rest ∧
      text = label ++ (value ++ rest) ∧ found = ⟨label, value, []⟩ := by
  rw [keyed?_eq_some_iff]
  constructor
  · rintro ⟨label, first, more, announces, value, rfl, rfl⟩
    refine ⟨label, _, more.dropWhile isValueChar, announces, ⟨List.cons_ne_nil _ _, ?_, ?_⟩, ?_, rfl⟩
    · exact List.forall_mem_cons.mpr ⟨value, fun _ => List.all_eq_true.mp List.all_takeWhile _⟩
    · intro char member
      have stopped := List.head?_dropWhile_not isValueChar more
      rw [Option.mem_def.mp member] at stopped
      exact stopped
    · rw [List.cons_append, List.takeWhile_append_dropWhile]
  · rintro ⟨label, value, rest, announces, isValue, rfl, rfl⟩
    obtain ⟨first, more, rfl⟩ := List.exists_cons_of_ne_nil isValue.filled
    have first_value : isValueChar first = true := isValue.chars first List.mem_cons_self
    have taken := isValue.takeWhile_eq
    rw [List.cons_append, List.takeWhile_cons, if_pos first_value] at taken
    exact ⟨label, first, more ++ rest, announces, first_value, rfl, by rw [taken]⟩

end ConnectionUri.Log.Redaction

/-!
## Passwords of user-infos
-/

namespace ConnectionUri.Log.Redaction

theorem isPasswordChar_at : isPasswordChar '@' = false := by decide

theorem isUserChar_colon : isUserChar ':' = false := by decide

theorem userInfo?_append {name hidden : Text} (ofName : ∀ char ∈ name, isUserChar char = true)
    (filled : hidden ≠ []) (ofHidden : ∀ char ∈ hidden, isPasswordChar char = true) (rest : Text) :
    userInfo? ("://".toList ++ name ++ ':' :: hidden ++ '@' :: rest) =
      some ⟨"://".toList ++ name ++ [':'], hidden, ['@']⟩ := by
  have written : "://".toList ++ name ++ ':' :: hidden ++ '@' :: rest =
      ':' :: '/' :: '/' :: (name ++ ':' :: (hidden ++ '@' :: rest)) := by simp
  have notEmpty : hidden.isEmpty = false := by simpa using filled
  rw [written]
  simp only [userInfo?, List.takeWhile_append_of_pos ofName, List.dropWhile_append_of_pos ofName,
    List.takeWhile_append_of_pos ofHidden, List.dropWhile_append_of_pos ofHidden,
    List.takeWhile_cons, List.dropWhile_cons, isUserChar_colon, isPasswordChar_at,
    Bool.false_eq_true, if_false, notEmpty, List.append_nil]

theorem userInfo?_eq_some_iff {text : Text} {found : Credential} :
    userInfo? text = some found ↔ ∃ name hidden rest, (∀ char ∈ name, isUserChar char = true) ∧
      hidden ≠ [] ∧ (∀ char ∈ hidden, isPasswordChar char = true) ∧
      text = "://".toList ++ name ++ ':' :: hidden ++ '@' :: rest ∧
      found = ⟨"://".toList ++ name ++ [':'], hidden, ['@']⟩ := by
  constructor
  · intro searched
    unfold userInfo? at searched
    split at searched
    · next rest =>
        simp only [] at searched
        split at searched
        · next after named =>
            split at searched
            · next tail closed =>
                split at searched
                · cases searched
                · next filled =>
                    refine ⟨rest.takeWhile isUserChar, after.takeWhile isPasswordChar, tail,
                      fun _ => List.all_eq_true.mp List.all_takeWhile _, by simpa using filled,
                      fun _ => List.all_eq_true.mp List.all_takeWhile _, ?_, (Option.some.inj searched).symm⟩
                    have ofName := List.takeWhile_append_dropWhile (p := isUserChar) (l := rest)
                    have ofHidden :=
                      List.takeWhile_append_dropWhile (p := isPasswordChar) (l := after)
                    rw [named] at ofName
                    rw [closed] at ofHidden
                    calc ':' :: '/' :: '/' :: rest
                        = "://".toList ++ (rest.takeWhile isUserChar ++ ':' ::
                            (after.takeWhile isPasswordChar ++ '@' :: tail)) := by
                          rw [ofHidden, ofName]
                          rfl
                      _ = _ := by simp
            · cases searched
        · cases searched
    · cases searched
  · rintro ⟨name, hidden, rest, ofName, filled, ofHidden, rfl, rfl⟩
    exact userInfo?_append ofName filled ofHidden rest

theorem userInfo?_atFront : FindsAtFront userInfo? := by
  intro text found searched
  obtain ⟨name, hidden, rest, -, -, -, rfl, rfl⟩ := userInfo?_eq_some_iff.mp searched
  exact ⟨by simp, rest, by simp [Credential.whole]⟩

end ConnectionUri.Log.Redaction
