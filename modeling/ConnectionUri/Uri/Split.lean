import ConnectionUri.Text.Basic

/-!
# The five components of a URI reference

Every text splits into an optional scheme, an optional authority, a path, an optional query and an
optional fragment, by the first marks alone. `Split.join` puts the marks back, and `join_split` says
that nothing is lost.
-/

set_option autoImplicit false

namespace ConnectionUri.Uri

/-- The raw components of a URI reference. -/
structure Split where
  scheme : Option Text
  authority : Option Text
  path : Text
  query : Option Text
  fragment : Option Text
  deriving DecidableEq

/-- The scheme and the rest: the scheme is the text before the first colon, unless that text is
empty or holds a slash. -/
def splitScheme (text : Text) : Option Text × Text :=
  match Text.cut ':' text with
  | (before, some after) =>
    if before.isEmpty || before.contains '/' then (none, text) else (some before, after)
  | (_, none) => (none, text)

/-- The authority and the path: the authority stands between two slashes and the next one. -/
def splitAuthority : Text → Option Text × Text
  | '/' :: '/' :: rest => (some (rest.takeWhile (· != '/')), rest.dropWhile (· != '/'))
  | text => (none, text)

/-- The components of a text: the fragment follows the first number sign, the query the first
question mark before it. -/
def split (text : Text) : Split :=
  let (beforeFragment, fragment) := Text.cut '#' text
  let (beforeQuery, query) := Text.cut '?' beforeFragment
  let (scheme, rest) := splitScheme beforeQuery
  let (authority, path) := splitAuthority rest
  { scheme, authority, path, query, fragment }

/-- A part after its mark, or nothing. -/
def marked (mark : Text) : Option Text → Text
  | some part => mark ++ part
  | none => []

/-- A scheme before its colon, or nothing. -/
def closed : Option Text → Text
  | some scheme => scheme ++ [':']
  | none => []

/-- The components written one after another with their marks. -/
def Split.join (parts : Split) : Text :=
  closed parts.scheme ++ marked ['/', '/'] parts.authority ++ parts.path ++
    marked ['?'] parts.query ++ marked ['#'] parts.fragment

theorem cut_marked (mark : Char) (text : Text) :
    (Text.cut mark text).1 ++ marked [mark] (Text.cut mark text).2 = text := by
  cases found : Text.cut mark text with
  | mk before after =>
    cases after with
    | none => simp [marked, (Text.cut_eq_none found).1.symm]
    | some after => simp [marked, Text.cut_eq_some found]

theorem splitAuthority_marked (text : Text) :
    marked ['/', '/'] (splitAuthority text).1 ++ (splitAuthority text).2 = text := by
  unfold splitAuthority
  split <;> simp [marked, List.takeWhile_append_dropWhile]

theorem closed_splitScheme (text : Text) :
    closed (splitScheme text).1 ++ (splitScheme text).2 = text := by
  unfold splitScheme
  cases found : Text.cut ':' text with
  | mk before after =>
    cases after with
    | none => rfl
    | some after =>
      simp only []
      split
      · rfl
      · simp [closed, Text.cut_eq_some found]

/-- Nothing is lost by a split. -/
theorem join_split (text : Text) : (split text).join = text := by
  have fragment := cut_marked '#' text
  have query := cut_marked '?' (Text.cut '#' text).1
  have scheme := closed_splitScheme (Text.cut '?' (Text.cut '#' text).1).1
  have authority := splitAuthority_marked (splitScheme (Text.cut '?' (Text.cut '#' text).1).1).2
  rw [← authority] at scheme
  rw [← scheme] at query
  rw [← query] at fragment
  simpa [Split.join, split, List.append_assoc] using fragment

end ConnectionUri.Uri
