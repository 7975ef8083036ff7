import ConnectionUri.Proofs.Log.Credentials

/-!
# What a redaction leaves

After the values of keys are masked, every value of a key in the text is the mask, at whatever place
the search begins. After the passwords of user-infos are masked the same holds of them, but a mask
can now follow a key: `Replaces.keyed?_userInfo` says that this happens only after a user name
that ends in a key. `masked_redact` puts the two together for a whole redaction.
-/

set_option autoImplicit false

/-!
## Masks in a text
-/

namespace ConnectionUri.Log.Redaction

theorem isValueChar_of_mem_mask {char : Char} (member : char ∈ Credential.mask) :
    isValueChar char = true := by
  have all : Credential.mask.all isValueChar = true := by decide
  exact List.all_eq_true.mp all char member

theorem not_isSign_of_mem_mask {char : Char} (member : char ∈ Credential.mask) :
    isSign char = false := by
  have none : Credential.mask.all (!isSign ·) = true := by decide
  simpa using List.all_eq_true.mp none char member

theorem isValue_mask {rest : Text} (ended : ∀ char ∈ rest.head?, isValueChar char = false) :
    IsValue Credential.mask rest where
  filled := by decide
  chars := fun _ => isValueChar_of_mem_mask
  ended := ended

theorem keyed?_mask_append {label : Text} (announces : IsLabel label) (rest : Text) :
    keyed? (label ++ (Credential.mask ++ rest)) =
      some ⟨label, Credential.mask ++ rest.takeWhile isValueChar, []⟩ := by
  have searched := keyed?_label_append announces (show isValueChar '[' = true by decide)
    (Credential.mask.tail ++ rest)
  have value : ∀ char ∈ Credential.mask.tail, isValueChar char = true := fun char member =>
    isValueChar_of_mem_mask (List.mem_of_mem_tail member)
  rw [List.takeWhile_append_of_pos value] at searched
  exact searched

theorem keyed?_label_mask {label rest : Text} (announces : IsLabel label)
    (ended : ∀ char ∈ rest.head?, isValueChar char = false) :
    keyed? (label ++ (Credential.mask ++ rest)) = some ⟨label, Credential.mask, []⟩ :=
  keyed?_value_iff.mpr ⟨label, Credential.mask, rest, announces, isValue_mask ended, rfl, rfl⟩

theorem IsLabel.exists_sign {label : Text} (announces : IsLabel label) :
    ∃ before sign after, label = before ++ sign :: after ∧ isSign sign = true := by
  cases announces with
  | intro _ _ ofSign _ => exact ⟨_, _, _, rfl, ofSign⟩

/-- No label begins in text without a sign that holds another character than those of labels. -/
theorem IsLabel.not_append {label inside rest tail : Text} (announces : IsLabel label)
    (noSign : ∀ char ∈ inside, isSign char = false) {stop : Char} (member : stop ∈ inside)
    (outside : Redaction.isLabelChar stop = false) : label ++ tail ≠ inside ++ rest := by
  intro written
  rcases List.append_eq_append_iff.mp written with ⟨middle, rfl, -⟩ | ⟨middle, rfl, -⟩
  · obtain ⟨before, sign, after, rfl, ofSign⟩ := announces.exists_sign
    have plain := noSign sign (by simp)
    rw [ofSign] at plain
    cases plain
  · exact announces.not_mem outside (List.mem_append_left _ member)

/-- A label that begins in a text without a sign begins after it, if the text ends in no character of
labels. -/
theorem IsLabel.begins_after {inside middle label tail rest : Text} (announces : IsLabel label)
    (noSign : ∀ char ∈ inside, isSign char = false) {stop : Char} (last : inside.getLast? = some stop)
    (outside : Redaction.isLabelChar stop = false)
    (written : inside ++ rest = middle ++ (label ++ tail)) :
    ∃ front, rest = front ++ (label ++ tail) := by
  rcases List.append_eq_append_iff.mp written with ⟨front, -, same⟩ | ⟨after, rfl, same⟩
  · exact ⟨front, same⟩
  · cases ended : after.getLast? with
    | none =>
        rw [List.getLast?_eq_none_iff.mp ended] at same
        exact ⟨[], same.symm⟩
    | some char =>
        rw [List.getLast?_append, ended, Option.some_or] at last
        obtain rfl := Option.some.inj last
        have plain : ∀ char ∈ after, isSign char = false := fun char member =>
          noSign char (List.mem_append_right _ member)
        exact absurd same (announces.not_append plain (List.mem_of_getLast? ended) outside)

/-- A label and a value character stand before a mask, or the label reaches up to it. -/
theorem IsLabel.cases_before_mask {label more middle rest : Text} {first : Char}
    (announces : IsLabel label)
    (written : label ++ first :: more = middle ++ (Credential.mask ++ rest)) :
    (label = middle ∧ first :: more = Credential.mask ++ rest) ∨
      ∃ inside, middle = label ++ first :: inside := by
  rcases List.append_eq_append_iff.mp written with ⟨gap, same, tail⟩ | ⟨gap, same, tail⟩
  · cases gap with
    | nil => exact .inl ⟨by rw [same, List.append_nil], tail⟩
    | cons char inside =>
        have reached : first = char := (List.cons.inj tail).1
        exact .inr ⟨inside, reached ▸ same⟩
  · cases gap with
    | nil => exact .inl ⟨by rw [same, List.append_nil], tail.symm⟩
    | cons char inside =>
        have bracket : '[' = char := (List.cons.inj tail).1
        have member : '[' ∈ label := by
          rw [same, bracket]
          exact List.mem_append_right _ List.mem_cons_self
        exact absurd member (announces.not_mem (by decide))

/-- The value after a label that ends another label is blank. -/
theorem IsLabel.not_inside {front label inside : Text} {first : Char} (announces : IsLabel label)
    (value : isValueChar first = true) : ¬ IsLabel (front ++ (label ++ first :: inside)) := by
  intro outer
  obtain ⟨before, sign, after, rfl, ofSign⟩ := announces.exists_sign
  have shape : front ++ (before ++ sign :: after ++ first :: inside) =
      (front ++ before) ++ sign :: (after ++ first :: inside) := by simp
  rw [shape] at outer
  have plain := isBlank_eq_false_of_isValueChar value
  rw [outer.isBlank_of_sign ofSign first (by simp)] at plain
  cases plain

end ConnectionUri.Log.Redaction

/-!
## Labels before and after a replacement
-/

namespace ConnectionUri.Log.Redaction

variable {find? : Text → Option Credential}

/-- Where a replacement leaves a label and a value character, they were there before it, if the
search hides value characters or keeps a slash before them. -/
theorem label_of_replaces
    (masksValues : ∀ text found, find? text = some found →
      '/' ∈ found.before ∨ ∃ first more, found.hidden = first :: more ∧ isValueChar first = true)
    {rest out : Text} (replaces : Replaces find? rest out) (front : Text) {label more : Text}
    {first : Char}
    (announces : IsLabel label) (value : isValueChar first = true)
    (within : front.length ≤ label.length) (written : front ++ out = label ++ first :: more) :
    ∃ other tail, isValueChar other = true ∧ front ++ rest = label ++ other :: tail := by
  induction replaces generalizing front with
  | nil => exact ⟨first, more, value, written⟩
  | @keep char rest out _ _ ih =>
      rcases Nat.lt_or_ge front.length label.length with shorter | reached
      · have longer : (front ++ [char]).length ≤ label.length := by
          rw [List.length_append]
          exact shorter
        simpa using ih (front ++ [char]) longer (by simpa using written)
      · obtain ⟨rfl, same⟩ := List.append_inj written (Nat.le_antisymm within reached)
        obtain ⟨rfl, -⟩ := List.cons.inj same
        exact ⟨char, rest, value, rfl⟩
  | @hide found rest out known _ _ =>
      have shape : label ++ first :: more =
          (front ++ found.before) ++ (Credential.mask ++ (found.after ++ out)) := by
        rw [← written]
        simp [Credential.masked]
      rcases announces.cases_before_mask shape with ⟨rfl, -⟩ | ⟨inside, same⟩
      · rcases masksValues _ _ known with slash | ⟨other, tail, hidden, isValue⟩
        · exact absurd (List.mem_append_right _ slash) (announces.not_mem (by decide))
        · exact ⟨other, tail ++ found.after ++ rest, isValue, by simp [Credential.whole, hidden]⟩
      · refine ⟨first, inside ++ found.hidden ++ found.after ++ rest, value, ?_⟩
        calc front ++ (found.whole ++ rest)
            = (front ++ found.before) ++ (found.hidden ++ found.after ++ rest) := by
              simp [Credential.whole]
          _ = _ := by simp [same]

theorem keyed?_masksValues (text : Text) (found : Credential) (searched : keyed? text = some found) :
    '/' ∈ found.before ∨ ∃ first more, found.hidden = first :: more ∧ isValueChar first = true := by
  obtain ⟨label, first, more, -, value, -, rfl⟩ := keyed?_eq_some_iff.mp searched
  exact .inr ⟨first, _, rfl, value⟩

theorem userInfo?_masksValues (text : Text) (found : Credential)
    (searched : userInfo? text = some found) :
    '/' ∈ found.before ∨ ∃ first more, found.hidden = first :: more ∧ isValueChar first = true := by
  obtain ⟨name, hidden, rest, -, -, -, -, rfl⟩ := userInfo?_eq_some_iff.mp searched
  exact .inl (by simp)

end ConnectionUri.Log.Redaction

/-!
## Values after keys
-/

namespace ConnectionUri.Log.Redaction

theorem head?_of_keyed? {found : Credential} {rest : Text}
    (searched : keyed? (found.whole ++ rest) = some found) :
    ∀ char ∈ rest.head?, isValueChar char = false := by
  obtain ⟨label, value, after, -, isValue, written, rfl⟩ := keyed?_value_iff.mp searched
  have same : label ++ (value ++ rest) = label ++ (value ++ after) := by
    rw [← written]
    simp [Credential.whole]
  obtain rfl := List.append_cancel_left (List.append_cancel_left same)
  exact isValue.ended

theorem Replaces.sealed_keyed {text out : Text} (replaces : Replaces keyed? text out) :
    Sealed keyed? out := by
  induction replaces with
  | nil =>
      intro front tail found written searched
      obtain ⟨label, first, more, announces, -, rfl, -⟩ := keyed?_eq_some_iff.mp searched
      simp at written
  | @keep char rest out missing replaces ih =>
      intro front tail found written searched
      cases front with
      | cons _ front => exact ih front tail found (List.cons.inj written).2 searched
      | nil =>
          obtain ⟨label, first, more, announces, value, shape, -⟩ := keyed?_eq_some_iff.mp searched
          obtain ⟨other, rest', isValue, before⟩ := label_of_replaces keyed?_masksValues replaces
            [char] announces value (List.length_pos_iff.mpr announces.ne_nil)
            (written.trans shape)
          rw [show char :: rest = label ++ other :: rest' from before,
            keyed?_label_append announces isValue rest'] at missing
          cases missing
  | @hide found rest out known replaces ih =>
      intro front tail other written searched
      have ended : ∀ char ∈ out.head?, isValueChar char = false := by
        rw [replaces.head? keyed?_atFront]
        exact head?_of_keyed? known
      obtain ⟨keyLabel, _, _, keyed, -, -, rfl⟩ := keyed?_eq_some_iff.mp known
      obtain ⟨label, first, more, announces, value, rfl, rfl⟩ := keyed?_eq_some_iff.mp searched
      have shape : keyLabel ++ (Credential.mask ++ out) = front ++ (label ++ first :: more) := by
        rw [← written]
        simp [Credential.masked]
      rcases List.append_eq_append_iff.mp shape with ⟨middle, -, later⟩ | ⟨middle, inside, later⟩
      · obtain ⟨front, same⟩ := announces.begins_after (fun _ => not_isSign_of_mem_mask)
          (show Credential.mask.getLast? = some ']' by decide) (by decide) later
        exact ih front _ _ same searched
      · rcases announces.cases_before_mask later with ⟨rfl, same⟩ | ⟨after, same⟩
        · rw [same, keyed?_label_mask announces ended] at searched
          exact (congrArg Credential.hidden (Option.some.inj searched)).symm
        · exact absurd (same ▸ inside ▸ keyed) (announces.not_inside value)

end ConnectionUri.Log.Redaction

/-!
## Passwords of user-infos
-/

namespace ConnectionUri.Log.Redaction

theorem slash_of_userInfo? {text : Text} {found : Credential}
    (searched : userInfo? text = some found) : ∃ rest, text = ':' :: '/' :: '/' :: rest := by
  obtain ⟨name, hidden, rest, -, -, -, rfl, -⟩ := userInfo?_eq_some_iff.mp searched
  exact ⟨name ++ ':' :: hidden ++ '@' :: rest, by simp⟩

theorem quiet_of_no_slash {front : Text} (noSlash : '/' ∉ front) (last : front.getLast? ≠ some ':')
    (rest : Text) : Quiet userInfo? front rest := by
  induction front with
  | nil => trivial
  | cons char front ih =>
      simp only [List.mem_cons, not_or] at noSlash
      constructor
      · cases searched : userInfo? (char :: (front ++ rest)) with
        | none => rfl
        | some found =>
            obtain ⟨tail, written⟩ := slash_of_userInfo? searched
            cases front with
            | nil => exact absurd (congrArg some (List.cons.inj written).1) last
            | cons next front =>
                obtain ⟨-, rest⟩ := List.cons.inj written
                exact absurd (List.mem_cons.mpr (.inl (List.cons.inj rest).1.symm)) noSlash.2
      · cases front with
        | nil => trivial
        | cons next front => exact ih noSlash.2 (by simpa using last)

/-- After the slashes of a user-info without further slashes none follows a colon. -/
theorem eq_nil_of_colon_slash {before tail rest : Text} (noSlash : '/' ∉ tail)
    (written : "://".toList ++ tail = before ++ ':' :: '/' :: rest) : before = [] := by
  match before with
  | [] => rfl
  | [first] => cases (List.cons.inj (List.cons.inj written).2).1
  | [first, second] =>
      cases (List.cons.inj (List.cons.inj (List.cons.inj written).2).2).1
  | first :: second :: third :: before =>
      have inside : tail = before ++ ':' :: '/' :: rest :=
        (List.cons.inj (List.cons.inj (List.cons.inj written).2).2).2
      exact absurd (by simp [inside]) noSlash

theorem slash_not_mem_of_isPasswordChar {text : Text}
    (secret : ∀ char ∈ text, isPasswordChar char = true) : '/' ∉ text := by
  intro member
  exact absurd (secret '/' member) (by decide)

theorem slash_not_mem_of_isUserChar {text : Text} (name : ∀ char ∈ text, isUserChar char = true) :
    '/' ∉ text := by
  intro member
  exact absurd (name '/' member) (by decide)

/-- A user-info that a replacement leaves was there before it. -/
theorem userInfo?_of_replaces {rest out : Text} (replaces : Replaces userInfo? rest out)
    (front : Text) {name hidden more : Text} (begun : front ≠ [])
    (ofName : ∀ char ∈ name, isUserChar char = true) (filled : hidden ≠ [])
    (ofHidden : ∀ char ∈ hidden, isPasswordChar char = true)
    (written : front ++ out = "://".toList ++ name ++ ':' :: hidden ++ '@' :: more) :
    userInfo? (front ++ rest) ≠ none := by
  have whole : front ++ out =
      ("://".toList ++ (name ++ ':' :: hidden ++ ['@'])) ++ more := by
    rw [written]
    simp
  have reached : ∀ front more rest : Text,
      front = ("://".toList ++ (name ++ ':' :: hidden ++ ['@'])) ++ more →
      userInfo? (front ++ rest) ≠ none := by
    rintro _ more rest rfl missing
    have searched := userInfo?_append ofName filled ofHidden (more ++ rest)
    have same : ("://".toList ++ (name ++ ':' :: hidden ++ ['@'])) ++ more ++ rest =
        "://".toList ++ name ++ ':' :: hidden ++ '@' :: (more ++ rest) := by simp
    rw [same, searched] at missing
    cases missing
  clear written
  induction replaces generalizing front with
  | nil => exact reached front more [] (by rw [← whole, List.append_nil])
  | @keep char rest out _ _ ih =>
      have longer := ih (front ++ [char]) (by simp) (by simpa using whole)
      simpa using longer
  | @hide found rest out known _ _ =>
      rcases List.append_eq_append_iff.mp whole with ⟨tail, inside, later⟩ | ⟨tail, same, -⟩
      · obtain ⟨other, secret, after, -, -, -, -, rfl⟩ := userInfo?_eq_some_iff.mp known
        have noSlash : '/' ∉ name ++ ':' :: hidden ++ ['@'] := by
          have ofUser := slash_not_mem_of_isUserChar ofName
          have ofSecret := slash_not_mem_of_isPasswordChar ofHidden
          simp [ofUser, ofSecret]
        -- The masked user-info begins with a colon and a slash, so it cannot begin inside another.
        match tail with
        | [] => exact reached front [] _ (by rw [inside, List.append_nil, List.append_nil])
        | [only] =>
            have colon : ':' = only := (List.cons.inj later).1
            have last : ("://".toList ++ (name ++ ':' :: hidden)) ++ ['@'] = front ++ [only] := by
              rw [← inside]
              simp
            cases colon.trans (List.singleton_inj.mp (List.append_inj_right' last rfl)).symm
        | first :: second :: tail =>
            have colon : ':' = first := (List.cons.inj later).1
            have slash : '/' = second := (List.cons.inj (List.cons.inj later).2).1
            rw [← colon, ← slash] at inside
            exact absurd (eq_nil_of_colon_slash noSlash inside) begun
      · exact reached front tail _ same

theorem Replaces.sealed_userInfo {text out : Text} (replaces : Replaces userInfo? text out) :
    Sealed userInfo? out := by
  induction replaces with
  | nil =>
      intro front tail found written searched
      obtain ⟨rest, rfl⟩ := slash_of_userInfo? searched
      simp at written
  | @keep char rest out missing replaces ih =>
      intro front tail found written searched
      cases front with
      | cons _ front => exact ih front tail found (List.cons.inj written).2 searched
      | nil =>
          obtain ⟨name, hidden, more, ofName, filled, ofHidden, shape, -⟩ :=
            userInfo?_eq_some_iff.mp searched
          exact absurd missing (userInfo?_of_replaces replaces [char] (by simp) ofName
            filled ofHidden (written.trans shape))
  | @hide found rest out known replaces ih =>
      intro front tail other written searched
      obtain ⟨name, hidden, more, ofName, filled, ofHidden, -, rfl⟩ :=
        userInfo?_eq_some_iff.mp known
      have noSlash : '/' ∉ name ++ ':' :: Credential.mask := by
        have ofUser := slash_not_mem_of_isUserChar ofName
        have ofMask : '/' ∉ Credential.mask := by decide
        simp [ofUser, ofMask]
      have shape : ("://".toList ++ (name ++ ':' :: Credential.mask)) ++ ('@' :: out) =
          front ++ tail := by
        rw [← written]
        simp [Credential.masked]
      obtain ⟨begun, rfl⟩ := slash_of_userInfo? searched
      rcases List.append_eq_append_iff.mp shape with ⟨middle, -, later⟩ | ⟨middle, inside, later⟩
      · cases middle with
        | nil => cases (List.cons.inj later).1
        | cons at_ front => exact ih front _ _ (List.cons.inj later).2 searched
      · obtain _ | ⟨first, _ | ⟨second, middle⟩⟩ := middle
        · cases (List.cons.inj later).1
        · cases (List.cons.inj (List.cons.inj later).2).1
        · have colon : ':' = first := (List.cons.inj later).1
          have slash : '/' = second := (List.cons.inj (List.cons.inj later).2).1
          rw [← colon, ← slash] at inside
          obtain rfl := eq_nil_of_colon_slash noSlash inside
          have ofMask : ∀ char ∈ Credential.mask, isPasswordChar char = true := by
            have all : Credential.mask.all isPasswordChar = true := by decide
            exact fun char member => List.all_eq_true.mp all char member
          have masked := userInfo?_append ofName (by decide) ofMask out
          have same : "://".toList ++ name ++ ':' :: Credential.mask ++ '@' :: out =
              ':' :: '/' :: '/' :: begun := by
            rw [← List.nil_append (':' :: '/' :: '/' :: begun), ← shape]
            simp
          rw [← same, masked] at searched
          exact (congrArg Credential.hidden (Option.some.inj searched)).symm

end ConnectionUri.Log.Redaction

/-!
## Keys after both replacements
-/

namespace ConnectionUri.Log.Redaction

theorem takeWhile_append_of_stop {class? : Char → Bool} {text : Text} {stop : Char}
    (member : stop ∈ text) (outside : class? stop = false) (rest : Text) :
    (text ++ rest).takeWhile class? = text.takeWhile class? := by
  obtain ⟨before, after, rfl⟩ := List.append_of_mem member
  induction before with
  | nil => simp [outside]
  | cons first before ih =>
      simp only [List.cons_append, List.takeWhile_cons]
      split
      · rw [ih (by simp)]
      · rfl

theorem isBlank_eq_false_of_isPasswordChar {char : Char} (secret : isPasswordChar char = true) :
    Text.isBlank char = false := by
  simp only [isPasswordChar, Bool.and_eq_true, Bool.not_eq_true'] at secret
  exact secret.2

theorem isBlank_eq_false_of_isUserChar {char : Char} (name : isUserChar char = true) :
    Text.isBlank char = false := by
  rw [isUserChar, Bool.and_eq_true] at name
  exact isBlank_eq_false_of_isPasswordChar name.2

theorem not_blank_of_mem_userInfo {name : Text} (ofName : ∀ char ∈ name, isUserChar char = true)
    {char : Char} (member : char ∈ "://".toList ++ name ++ [':']) : Text.isBlank char = false := by
  simp only [List.mem_append, List.mem_singleton] at member
  rcases member with (member | member) | rfl
  · have plain : "://".toList.all (!Text.isBlank ·) = true := by decide
    simpa using List.all_eq_true.mp plain char member
  · exact isBlank_eq_false_of_isUserChar (ofName char member)
  · decide

/-- A label without white space that ends in a colon is a key and the colon. -/
theorem IsLabel.exists_word {front label text : Text} (announces : IsLabel label)
    (plain : ∀ char ∈ label, Text.isBlank char = false) (ended : text ++ [':'] = front ++ label) :
    ∃ word, IsKey word ∧ label = word ++ [':'] := by
  cases announces with
  | @intro word gap space sign key ofGap ofSign ofSpace =>
      have noGap : gap = [] := by
        refine List.eq_nil_iff_forall_not_mem.mpr fun char member => ?_
        have unblank := plain char (by simp [member])
        rw [ofGap char member] at unblank
        cases unblank
      have noSpace : space = [] := by
        refine List.eq_nil_iff_forall_not_mem.mpr fun char member => ?_
        have unblank := plain char (by simp [member])
        rw [ofSpace char member] at unblank
        cases unblank
      subst noGap noSpace
      have last : text ++ [':'] = (front ++ word) ++ [sign] := by
        rw [ended]
        simp
      have colon : ':' = sign := List.singleton_inj.mp (List.append_inj_right' last rfl)
      exact ⟨word, key, by rw [colon, List.append_nil]⟩

/-- A mask that stands after a key at the front of a text stays when passwords are replaced. -/
theorem Replaces.keyed?_front {label tail out : Text} {first : Char}
    (replaces : Replaces userInfo? (label ++ first :: tail) out) (announces : IsLabel label)
    (value : isValueChar first = true) (sealedText : Sealed keyed? (label ++ first :: tail)) :
    keyed? out = some ⟨label, Credential.mask, []⟩ := by
  have mask : first :: tail.takeWhile isValueChar = Credential.mask :=
    sealedText [] _ _ rfl (keyed?_label_append announces value tail)
  have whole : label ++ first :: tail = (label ++ Credential.mask) ++ tail.dropWhile isValueChar := by
    rw [← mask]
    simp [List.takeWhile_append_dropWhile]
  have noSlash : '/' ∉ label ++ Credential.mask := by
    have ofLabel : '/' ∉ label := announces.not_mem (by decide)
    have ofMask : '/' ∉ Credential.mask := by decide
    simp [ofLabel, ofMask]
  have last : (label ++ Credential.mask).getLast? ≠ some ':' := by
    have last : Credential.mask.getLast? = some ']' := by decide
    rw [List.getLast?_append, last, Option.some_or]
    decide
  have ended : ∀ char ∈ (replaceFrom userInfo? 0 (tail.dropWhile isValueChar)).head?,
      isValueChar char = false := by
    intro char member
    rw [(replaces_replaceFrom userInfo?_atFront _).head? userInfo?_atFront, Option.mem_def] at member
    have stopped := List.head?_dropWhile_not isValueChar tail
    rw [member] at stopped
    exact stopped
  have quiet := quiet_of_no_slash noSlash last (tail.dropWhile isValueChar)
  rw [replaces.eq_replaceFrom userInfo?_atFront, whole, quiet.replaceFrom_append, List.append_assoc]
  exact keyed?_label_mask announces ended

/-- In a text whose values after keys are masked, the value after a key is the mask whatever follows
the first colon behind it. -/
theorem Sealed.takeWhile_value {before label after rest : Text} {first : Char}
    (sealedText : Sealed keyed? (before ++ (label ++ first :: (after ++ rest))))
    (announces : IsLabel label) (value : isValueChar first = true) (colon : ':' ∈ first :: after)
    (other : Text) : (first :: after ++ other).takeWhile isValueChar = Credential.mask := by
  have mask : (first :: after ++ rest).takeWhile isValueChar = Credential.mask := by
    rw [List.cons_append, List.takeWhile_cons, if_pos value]
    exact sealedText before _ _ rfl (keyed?_label_append announces value (after ++ rest))
  have stops : ∃ stop ∈ first :: after, isValueChar stop = false := by
    apply Classical.byContradiction
    intro never
    have all : ∀ char ∈ first :: after, isValueChar char = true := by
      intro char member
      apply Classical.byContradiction
      intro stopped
      exact never ⟨char, member, by simpa using stopped⟩
    rw [List.takeWhile_append_of_pos all] at mask
    exact absurd (mask ▸ List.mem_append_left _ colon) (by decide : ':' ∉ Credential.mask)
  obtain ⟨stop, member, outside⟩ := stops
  rw [takeWhile_append_of_stop member outside] at mask ⊢
  exact mask

/-- In a text whose values after keys were masked already, a replacement of passwords leaves masks
after keys, and behind a user name that ends in a key an at sign too. -/
theorem Replaces.keyed?_userInfo {text out : Text} (replaces : Replaces userInfo? text out)
    (sealedText : Sealed keyed? text) (before : Text) {rest : Text} {found : Credential}
    (written : out = before ++ rest) (searched : keyed? rest = some found) :
    found.hidden = Credential.mask ∨ ∃ word more, IsKey word ∧ found.before = word ++ [':'] ∧
      found.hidden = Credential.mask ++ '@' :: more := by
  obtain ⟨label, first, more, announces, value, rfl, rfl⟩ := keyed?_eq_some_iff.mp searched
  have hidden : first :: more.takeWhile isValueChar = (first :: more).takeWhile isValueChar := by
    rw [List.takeWhile_cons, if_pos value]
  induction replaces generalizing before with
  | nil => simp at written
  | @keep char rest out missing replaces ih =>
      cases before with
      | cons _ before =>
          exact ih (sealedText.of_append [char]) before (List.cons.inj written).2
      | nil =>
          obtain ⟨other, tail, isValue, shape⟩ := label_of_replaces userInfo?_masksValues replaces
            [char] announces value (List.length_pos_iff.mpr announces.ne_nil) written
          have kept := Replaces.keep missing replaces
          rw [show char :: rest = label ++ other :: tail from shape] at kept sealedText
          rw [List.nil_append] at written
          rw [← written, kept.keyed?_front announces isValue sealedText] at searched
          exact .inl (congrArg Credential.hidden (Option.some.inj searched)).symm
  | @hide found rest out known replaces ih =>
      obtain ⟨name, secret, tail, ofName, filled, ofSecret, -, rfl⟩ :=
        userInfo?_eq_some_iff.mp known
      have shape : ("://".toList ++ name ++ [':']) ++ (Credential.mask ++ '@' :: out) =
          before ++ (label ++ first :: more) := by
        rw [← written]
        simp [Credential.masked]
      rcases List.append_eq_append_iff.mp shape with ⟨middle, -, later⟩ | ⟨middle, inside, later⟩
      · have masked : (Credential.mask ++ ['@']) ++ out = middle ++ (label ++ first :: more) := by
          rw [← later, List.append_assoc]
          rfl
        have noSign : ∀ char ∈ Credential.mask ++ ['@'], isSign char = false := by
          intro char member
          rcases List.mem_append.mp member with inMask | atSign
          · exact not_isSign_of_mem_mask inMask
          · rw [List.mem_singleton.mp atSign]
            decide
        obtain ⟨front, same⟩ := announces.begins_after noSign List.getLast?_concat (by decide) masked
        exact ih (sealedText.of_append _) front same
      · rcases announces.cases_before_mask later with ⟨rfl, same⟩ | ⟨after, same⟩
        · have plain : ∀ char ∈ label, Text.isBlank char = false := fun char member =>
            not_blank_of_mem_userInfo ofName (inside ▸ List.mem_append_right _ member)
          obtain ⟨word, key, ended⟩ := announces.exists_word plain inside
          refine .inr ⟨word, out.takeWhile isValueChar, key, ended, ?_⟩
          show first :: more.takeWhile isValueChar = _
          rw [hidden, same, List.takeWhile_append_of_pos fun _ => isValueChar_of_mem_mask,
            List.takeWhile_cons, if_pos (by decide)]
        · -- The value began before the secret, and it ends at the colon before the secret or earlier.
          have colon : ':' ∈ first :: after := by
            have last : ("://".toList ++ name ++ [':']).getLast? = some ':' :=
              List.getLast?_concat
            rw [inside, same, ← List.append_assoc, List.getLast?_append] at last
            cases ended : (first :: after).getLast? with
            | none => cases List.getLast?_eq_none_iff.mp ended
            | some char =>
                rw [ended] at last
                exact Option.some.inj last ▸ List.mem_of_getLast? ended
          have unmasked : "://".toList ++ name ++ [':'] ++ secret ++ ['@'] ++ rest =
              before ++ (label ++ first :: (after ++ (secret ++ '@' :: rest))) := by
            rw [inside, same]
            simp
          have earlier : Sealed keyed? ("://".toList ++ name ++ [':'] ++ secret ++ ['@'] ++ rest) :=
            sealedText
          rw [unmasked] at earlier
          have tail : first :: more = first :: after ++ (Credential.mask ++ '@' :: out) := by
            rw [same, List.append_assoc] at later
            exact List.append_cancel_left later
          refine .inl (?_ : first :: more.takeWhile isValueChar = Credential.mask)
          rw [hidden, tail]
          exact earlier.takeWhile_value announces value colon _

end ConnectionUri.Log.Redaction

/-!
## Redacted texts
-/

namespace ConnectionUri.Log.Redaction

/-- Wherever a text has a user-info with a password, the password is the mask, and wherever it has a
value after a key, the value begins with the mask. -/
structure Masked (text : Text) : Prop where
  userInfo : ∀ before name hidden after, (∀ char ∈ name, isUserChar char = true) → hidden ≠ [] →
    (∀ char ∈ hidden, isPasswordChar char = true) →
    text = before ++ ("://".toList ++ name ++ ':' :: hidden ++ '@' :: after) →
    hidden = Credential.mask
  keyed : ∀ before label value after, IsLabel label → value ≠ [] →
    (∀ char ∈ value, isValueChar char = true) →
    (∀ char ∈ after.head?, isValueChar char = false) →
    text = before ++ (label ++ value ++ after) → Credential.mask <+: value

theorem masked_redact (message : Text) : Masked (redact message) := by
  have replaces := replaces_replaceFrom userInfo?_atFront (replaceFrom keyed? 0 message)
  constructor
  · intro before name hidden after ofName filled ofHidden written
    exact replaces.sealed_userInfo before _ _ written (userInfo?_append ofName filled ofHidden after)
  · intro before label value after announces filled ofValue ended written
    have searched : keyed? (label ++ (value ++ after)) = some ⟨label, value, []⟩ :=
      keyed?_value_iff.mpr ⟨label, value, after, announces, ⟨filled, ofValue, ended⟩, rfl, rfl⟩
    have sealedText := (replaces_replaceFrom keyed?_atFront message).sealed_keyed
    have shape : redact message = before ++ (label ++ (value ++ after)) := by
      rw [written, List.append_assoc]
    rcases replaces.keyed?_userInfo sealedText before shape searched with
      hidden | ⟨word, rest, -, -, hidden⟩
    · exact ⟨[], (List.append_nil _).trans hidden.symm⟩
    · exact ⟨'@' :: rest, hidden.symm⟩

end ConnectionUri.Log.Redaction
