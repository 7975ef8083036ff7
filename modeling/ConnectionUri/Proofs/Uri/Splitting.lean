import ConnectionUri.Uri.Split

/-!
# Splitting at the first marks

`FirstMarks` says where the components of a text begin and end without saying how they are found.
`firstMarks_iff` says that the split of a text is the only way to satisfy it.
-/

set_option autoImplicit false

namespace ConnectionUri.Uri

/-- No character of the text is one of the marks. -/
def FreeOf (marks text : Text) : Prop := ∀ char ∈ text, char ∉ marks

instance (marks text : Text) : Decidable (FreeOf marks text) :=
  decidable_of_iff (text.all (!marks.contains ·) = true) (by simp [FreeOf])

/-- The components of a text as its first marks delimit them. The scheme is the non-empty text
before the first colon if no slash, question mark or number sign precedes that colon. The authority
follows two slashes and reaches to the next slash, question mark or number sign. The path reaches
to the first question mark or number sign, the query to the first number sign, and the fragment to
the end. -/
structure FirstMarks (text : Text) (parts : Split) : Prop where
  joined : parts.join = text
  scheme : ∀ scheme ∈ parts.scheme, scheme ≠ [] ∧ FreeOf [':', '/', '?', '#'] scheme
  noScheme : parts.scheme = none → ∀ before after,
    text = before ++ ':' :: after → FreeOf [':', '/', '?', '#'] before → before = []
  authority : ∀ authority ∈ parts.authority, FreeOf ['/', '?', '#'] authority ∧
    (parts.path = [] ∨ ∃ rest, parts.path = '/' :: rest)
  noAuthority : parts.authority = none → ¬ ['/', '/'] <+: parts.path
  path : FreeOf ['?', '#'] parts.path
  query : ∀ query ∈ parts.query, FreeOf ['#'] query

namespace FreeOf

variable {marks text : Text}

theorem not_mem {mark : Char} (free : FreeOf marks text) (isMark : mark ∈ marks) : mark ∉ text :=
  fun member => free mark member isMark

theorem of_subset {larger : Text} (free : FreeOf marks larger)
    (contained : ∀ char ∈ text, char ∈ larger) : FreeOf marks text :=
  fun char member => free char (contained char member)

theorem append {left right : Text} (before : FreeOf marks left) (after : FreeOf marks right) :
    FreeOf marks (left ++ right) := by
  intro char member
  rcases List.mem_append.mp member with member | member
  · exact before char member
  · exact after char member

end FreeOf

/-!
## The steps of a split
-/

theorem cut_append_marked {mark : Char} {before : Text} (absent : mark ∉ before)
    (after : Option Text) : Text.cut mark (before ++ marked [mark] after) = (before, after) := by
  cases after with
  | none => simpa [marked] using Text.cut_of_not_mem absent
  | some after => simpa [marked] using Text.cut_append_cons absent after

theorem mem_of_mem_cut {mark char : Char} {text : Text} (member : char ∈ (Text.cut mark text).1) :
    char ∈ text := by
  rw [← cut_marked mark text]
  exact List.mem_append_left _ member

theorem splitScheme_of_colon {before : Text} (filled : before ≠ []) (noColon : ':' ∉ before)
    (noSlash : '/' ∉ before) (after : Text) :
    splitScheme (before ++ ':' :: after) = (some before, after) := by
  simp [splitScheme, Text.cut_append_cons noColon, filled, noSlash]

theorem splitScheme_eq_none {text : Text}
    (noScheme : ∀ before after, text = before ++ ':' :: after → ':' ∉ before → '/' ∉ before →
      before = []) : splitScheme text = (none, text) := by
  unfold splitScheme
  cases found : Text.cut ':' text with
  | mk before remainder =>
      cases remainder with
      | none => rfl
      | some after =>
          have noColon : ':' ∉ before := by simpa [found] using Text.not_mem_cut ':' text
          have empty := noScheme before after (Text.cut_eq_some found) noColon
          by_cases slash : '/' ∈ before
          · simp [slash]
          · simp [empty slash]

theorem splitAuthority_of_slashes {authority path : Text} (noSlash : '/' ∉ authority)
    (rooted : path = [] ∨ ∃ rest, path = '/' :: rest) :
    splitAuthority ('/' :: '/' :: (authority ++ path)) = (some authority, path) := by
  have kept : ∀ char ∈ authority, (char != '/') = true := by
    intro char member
    simpa using fun same : char = '/' => noSlash (same ▸ member)
  simp only [splitAuthority, List.takeWhile_append_of_pos kept, List.dropWhile_append_of_pos kept]
  rcases rooted with rfl | ⟨rest, rfl⟩ <;> simp

theorem splitAuthority_eq_none {text : Text} (noSlashes : ¬ ['/', '/'] <+: text) :
    splitAuthority text = (none, text) := by
  unfold splitAuthority
  split
  · exact absurd ⟨_, rfl⟩ noSlashes
  · rfl

/-!
## The split and its specification
-/

/-- What stands after the scheme and before the query. -/
def Split.hierarchy (parts : Split) : Text := marked ['/', '/'] parts.authority ++ parts.path

theorem Split.join_eq (parts : Split) :
    parts.join = closed parts.scheme ++ parts.hierarchy ++ marked ['?'] parts.query ++
      marked ['#'] parts.fragment := by
  simp [Split.join, Split.hierarchy, List.append_assoc]

/-- Components are found again if each step of the split finds its own. -/
theorem split_join {parts : Split}
    (free : FreeOf ['?', '#'] (closed parts.scheme ++ parts.hierarchy))
    (noSign : ∀ query ∈ parts.query, '#' ∉ query)
    (scheme : splitScheme (closed parts.scheme ++ parts.hierarchy) =
      (parts.scheme, parts.hierarchy))
    (authority : splitAuthority parts.hierarchy = (parts.authority, parts.path)) :
    split parts.join = parts := by
  have noQuestion : '?' ∉ closed parts.scheme ++ parts.hierarchy := free.not_mem (by simp)
  have beforeFragment : '#' ∉ closed parts.scheme ++ parts.hierarchy ++ marked ['?'] parts.query := by
    rw [List.mem_append, not_or]
    refine ⟨free.not_mem (by simp), ?_⟩
    cases present : parts.query with
    | none => simp [marked]
    | some query =>
        have outside := noSign query present
        simp [marked, outside]
  rw [parts.join_eq]
  simp only [split, cut_append_marked beforeFragment, cut_append_marked noQuestion, scheme,
    authority]

namespace FirstMarks

variable {text : Text} {parts : Split}

theorem hierarchy_free (splits : FirstMarks text parts) : FreeOf ['?', '#'] parts.hierarchy := by
  refine FreeOf.append ?_ splits.path
  intro char member
  cases present : parts.authority with
  | none => simp [present, marked] at member
  | some authority =>
      simp only [present, marked, List.mem_append, List.mem_cons, List.not_mem_nil, or_false,
        or_self] at member
      rcases member with rfl | member
      · decide
      · have free := (splits.authority authority present).1 char member
        simp only [List.mem_cons, not_or] at free ⊢
        exact free.2

theorem front_free (splits : FirstMarks text parts) :
    FreeOf ['?', '#'] (closed parts.scheme ++ parts.hierarchy) := by
  refine FreeOf.append ?_ splits.hierarchy_free
  intro char member
  cases present : parts.scheme with
  | none => simp [present, closed] at member
  | some scheme =>
      simp only [present, closed, List.mem_append, List.mem_singleton] at member
      rcases member with member | rfl
      · have free := (splits.scheme scheme present).2 char member
        simp only [List.mem_cons, not_or] at free ⊢
        exact free.2.2
      · decide

theorem splitScheme_front (splits : FirstMarks text parts) :
    splitScheme (closed parts.scheme ++ parts.hierarchy) = (parts.scheme, parts.hierarchy) := by
  cases present : parts.scheme with
  | some scheme =>
      obtain ⟨filled, free⟩ := splits.scheme scheme present
      have colon : ':' ∉ scheme := free.not_mem (by simp)
      have slash : '/' ∉ scheme := free.not_mem (by simp)
      simpa [closed] using splitScheme_of_colon filled colon slash parts.hierarchy
  | none =>
      refine splitScheme_eq_none fun before after written noColon noSlash => ?_
      -- What precedes a colon here also precedes it in the whole text.
      have whole : text = before ++ ':' :: (after ++ marked ['?'] parts.query ++
          marked ['#'] parts.fragment) := by
        rw [← splits.joined, parts.join_eq, present, written]
        simp
      refine splits.noScheme present before _ whole fun char member => ?_
      have inFront : char ∈ closed parts.scheme ++ parts.hierarchy := by
        rw [present, written]
        exact List.mem_append_left _ member
      have outside := splits.front_free char inFront
      simp only [List.mem_cons, List.not_mem_nil, or_false, not_or] at outside ⊢
      exact ⟨fun same => noColon (same ▸ member), fun same => noSlash (same ▸ member), outside⟩

theorem splitAuthority_hierarchy (splits : FirstMarks text parts) :
    splitAuthority parts.hierarchy = (parts.authority, parts.path) := by
  unfold Split.hierarchy
  cases present : parts.authority with
  | none => exact splitAuthority_eq_none (splits.noAuthority present)
  | some authority =>
      obtain ⟨free, rooted⟩ := splits.authority authority present
      have slash : '/' ∉ authority := free.not_mem (by simp)
      exact splitAuthority_of_slashes slash rooted

/-- After two slashes no colon can be taken for the end of a scheme. -/
theorem of_authority {authority : Text} (present : parts.authority = some authority)
    (free : FreeOf ['/', '?', '#'] authority)
    (rooted : parts.path = [] ∨ ∃ rest, parts.path = '/' :: rest)
    (scheme : ∀ scheme ∈ parts.scheme, scheme ≠ [] ∧ FreeOf [':', '/', '?', '#'] scheme)
    (path : FreeOf ['?', '#'] parts.path) (query : ∀ query ∈ parts.query, FreeOf ['#'] query) :
    FirstMarks parts.join parts where
  joined := rfl
  scheme := scheme
  noScheme := by
    intro missing before after written noMark
    cases before with
    | nil => rfl
    | cons first more =>
        simp only [Split.join, missing, present, closed, marked, List.nil_append, List.cons_append,
          List.cons.injEq] at written
        have slash : '/' ∉ first :: more := noMark.not_mem (by simp)
        exact absurd (List.mem_cons.mpr (.inl written.1)) slash
  authority := by
    intro other same
    obtain rfl := Option.some.inj (present.symm.trans same)
    exact ⟨free, rooted⟩
  noAuthority := by
    intro missing
    rw [present] at missing
    cases missing
  path := path
  query := query

/-- Components at the first marks are the components that the split finds. -/
theorem eq_split (splits : FirstMarks text parts) : split text = parts := by
  rw [← splits.joined]
  exact split_join splits.front_free
    (fun query present => (splits.query query present).not_mem (by simp))
    splits.splitScheme_front splits.splitAuthority_hierarchy

/-- Another query leaves the other components where they are. -/
theorem split_join_query (splits : FirstMarks text parts) {query : Option Text}
    (noSign : ∀ written ∈ query, '#' ∉ written) :
    split { parts with query }.join = { parts with query } :=
  split_join splits.front_free noSign splits.splitScheme_front splits.splitAuthority_hierarchy

end FirstMarks

private theorem splitScheme_spec (text : Text) :
    (∀ scheme ∈ (splitScheme text).1, scheme ≠ [] ∧ FreeOf [':', '/'] scheme) ∧
      ((splitScheme text).1 = none → ∀ before after, text = before ++ ':' :: after →
        FreeOf [':', '/'] before → before = []) := by
  constructor
  · intro scheme found
    unfold splitScheme at found
    cases cutText : Text.cut ':' text with
    | mk before remainder =>
        have noColon : ':' ∉ before := by simpa [cutText] using Text.not_mem_cut ':' text
        cases remainder with
        | none => simp [cutText] at found
        | some after =>
            simp only [cutText] at found
            split at found
            · simp at found
            · next accepted =>
                cases found
                simp only [Bool.or_eq_true, List.isEmpty_iff, List.contains_iff_mem,
                  not_or] at accepted
                refine ⟨accepted.1, fun char member => ?_⟩
                simp only [List.mem_cons, List.not_mem_nil, or_false, not_or]
                exact ⟨fun same => noColon (same ▸ member),
                  fun same => accepted.2 (same ▸ member)⟩
  · rintro missing before after rfl free
    apply Classical.byContradiction
    intro filled
    have found := splitScheme_of_colon filled (free.not_mem (by simp)) (free.not_mem (by simp)) after
    simp [found] at missing

private theorem splitAuthority_spec (text : Text) :
    (∀ authority ∈ (splitAuthority text).1, '/' ∉ authority ∧
      ((splitAuthority text).2 = [] ∨ ∃ rest, (splitAuthority text).2 = '/' :: rest)) ∧
      ((splitAuthority text).1 = none → ¬ ['/', '/'] <+: (splitAuthority text).2) := by
  unfold splitAuthority
  split
  · next rest =>
      refine ⟨?_, by simp⟩
      rintro _ ⟨⟩
      constructor
      · intro member
        simpa using List.all_eq_true.mp List.all_takeWhile _ member
      · cases stop : rest.dropWhile (· != '/') with
        | nil => exact .inl rfl
        | cons first more =>
            have stopped := List.head?_dropWhile_not (· != '/') rest
            simp only [stop, List.head?_cons, bne_eq_false_iff_eq] at stopped
            exact .inr ⟨more, by rw [stopped]⟩
  · next unslashed =>
      refine ⟨by simp, fun _ => ?_⟩
      rintro ⟨rest, rfl⟩
      exact unslashed rest rfl

/-- What precedes the query and the fragment. -/
def front (text : Text) : Text := (Text.cut '?' (Text.cut '#' text).1).1

theorem front_free (text : Text) : FreeOf ['?', '#'] (front text) := by
  intro char member isMark
  simp only [List.mem_cons, List.not_mem_nil, or_false] at isMark
  rcases isMark with rfl | rfl
  · exact Text.not_mem_cut '?' _ member
  · exact Text.not_mem_cut '#' text (mem_of_mem_cut member)

theorem front_append {before : Text} (free : FreeOf ['?', '#'] before) (after : Text) :
    front (before ++ after) = before ++ front after := by
  have noSign : '#' ∉ before := free.not_mem (by simp)
  have noQuestion : '?' ∉ before := free.not_mem (by simp)
  simp only [front, Text.cut_append noSign, Text.cut_append noQuestion]

theorem split_front (text : Text) :
    closed (split text).scheme ++ (split text).hierarchy = front text := by
  have schemeWritten := closed_splitScheme (front text)
  have authorityWritten := splitAuthority_marked (splitScheme (front text)).2
  exact (congrArg (closed (split text).scheme ++ ·) authorityWritten).trans schemeWritten

/-- The split of a text delimits its components at the first marks. -/
theorem firstMarks_split (text : Text) : FirstMarks text (split text) := by
  obtain ⟨ofScheme, noScheme⟩ := splitScheme_spec (front text)
  obtain ⟨ofAuthority, noAuthority⟩ := splitAuthority_spec (splitScheme (front text)).2
  have hierarchy_free : FreeOf ['?', '#'] (split text).hierarchy :=
    (front_free text).of_subset fun char member => split_front text ▸ List.mem_append_right _ member
  exact {
    joined := join_split text
    scheme := by
      intro scheme present
      obtain ⟨filled, free⟩ := ofScheme scheme present
      refine ⟨filled, fun char member => ?_⟩
      have inFront : char ∈ front text := by
        rw [← split_front, present]
        simp [closed, member]
      have outside := front_free text char inFront
      have inside := free char member
      simp only [List.mem_cons, List.not_mem_nil, or_false, not_or] at outside inside ⊢
      exact ⟨inside.1, inside.2, outside⟩
    noScheme := by
      intro missing before after written free
      have questionFree : FreeOf ['?', '#'] (before ++ [':']) := by
        refine FreeOf.append (fun char member isMark => free char member ?_) (by simp [FreeOf])
        exact List.mem_cons_of_mem _ (List.mem_cons_of_mem _ isMark)
      have colonFree : FreeOf [':', '/'] before := by
        intro char member isMark
        exact free char member (List.mem_append_left ['?', '#'] isMark)
      refine noScheme missing before (front after) ?_ colonFree
      have stays := front_append questionFree after
      simpa [written] using stays
    authority := by
      intro authority present
      obtain ⟨noSlash, rooted⟩ := ofAuthority authority present
      refine ⟨fun char member isMark => ?_, rooted⟩
      have inHierarchy : char ∈ (split text).hierarchy := by
        rw [Split.hierarchy, show (split text).authority = some authority from present]
        simp [marked, member]
      rcases List.mem_cons.mp isMark with rfl | isMark
      · exact noSlash member
      · exact hierarchy_free char inHierarchy isMark
    noAuthority := noAuthority
    path := hierarchy_free.of_subset fun char member => List.mem_append_right _ member
    query := by
      intro query present char member isMark
      cases List.mem_singleton.mp isMark
      have written := cut_marked '?' (Text.cut '#' text).1
      have inFront : '#' ∈ (Text.cut '#' text).1 := by
        rw [← written, show (Text.cut '?' (Text.cut '#' text).1).2 = some query from present]
        simp [marked, member]
      exact Text.not_mem_cut '#' text inFront }

/-- There is one way to delimit the components of a text at its first marks. -/
theorem firstMarks_iff {text : Text} {parts : Split} : FirstMarks text parts ↔ split text = parts :=
  ⟨FirstMarks.eq_split, fun same => same ▸ firstMarks_split text⟩

end ConnectionUri.Uri
