import ConnectionUri.Proofs.Uri.LegalCharacters

/-!
# Composed URIs

Legal components with a scheme and an authority, written one after another, are split where they
were joined. `decompose_join` says that a URI composed of a legal server decomposes into the pieces
it was composed of.
-/

set_option autoImplicit false

namespace ConnectionUri.Uri

theorem Spelled.freeOf {allowed : Char → Bool} {marks text : Text} (spelled : Spelled allowed text)
    (outside : marks.all
      (fun mark => !(allowed mark || mark == '%' || Text.isHexDigit mark)) = true) :
    FreeOf marks text := by
  intro char member isMark
  have absent := List.all_eq_true.mp outside char isMark
  rw [Bool.not_eq_true'] at absent
  exact spelled.not_mem absent member

theorem freeOf_of_isScheme {scheme : Text} (legal : isScheme scheme = true) :
    scheme ≠ [] ∧ FreeOf [':', '/', '?', '#'] scheme := by
  constructor
  · rintro rfl
    cases legal
  · intro char member isMark
    have permitted := isSchemeChar_of_isScheme legal char member
    simp only [List.mem_cons, List.not_mem_nil, or_false] at isMark
    rcases isMark with rfl | rfl | rfl | rfl <;> revert permitted <;> decide

theorem Server.Legal.freeOf {server : Server} (legal : server.Legal) :
    FreeOf ['/', '?', '#'] server.join := by
  obtain ⟨userInfo, host, port⟩ := server
  refine FreeOf.append (FreeOf.append ?_ ?_) ?_
  · cases userInfo with
    | none => simp [FreeOf]
    | some userInfo =>
        have spelled := legal.userInfo userInfo rfl
        exact (spelled.freeOf (by decide)).append (by simp [FreeOf])
  · intro char member isMark
    refine legal.host.not_mem ?_ member
    simp only [List.mem_cons, List.not_mem_nil, or_false] at isMark ⊢
    rcases isMark with rfl | rfl | rfl <;> simp
  · intro char member isMark
    refine legal.port.not_mem ?_ member
    simp only [List.mem_cons, List.not_mem_nil, or_false] at isMark
    rcases isMark with rfl | rfl | rfl <;> decide

theorem IsAuthority.freeOf {authority : Text} (legal : IsAuthority authority) :
    FreeOf ['/', '?', '#'] authority := by
  rcases legal with ⟨server, serverLegal, rfl⟩ | registry
  · exact serverLegal.freeOf
  · exact registry.freeOf (by decide)

namespace Split.Legal

variable {parts : Split}

/-- The marks between legal components are the first ones. -/
theorem firstMarks (legal : parts.Legal) {authority : Text}
    (present : parts.authority = some authority)
    (rooted : parts.path = [] ∨ ∃ rest, parts.path = '/' :: rest) :
    FirstMarks parts.join parts :=
  .of_authority present (legal.authority authority present).freeOf rooted
    (fun scheme written => freeOf_of_isScheme (legal.scheme scheme written))
    (legal.path.freeOf (by decide))
    fun query written => (legal.query query written).freeOf (by decide)

theorem trimmed_eq_self (legal : parts.Legal) : parts.trimmed = parts := by
  apply Split.trimmed_eq_self
  apply Split.not_endsInNewline_of_not_mem
  intro newline
  have isChar := legal.isUriChar '\n' newline
  revert isChar
  decide

end Split.Legal

/-- A URI composed of a scheme, a legal server with a short port, a path and a query decomposes into
the pieces it was composed of. -/
theorem decompose_join {scheme path : Text} {server : Server} {query : Option Text}
    (legal : Split.Legal ⟨some scheme, some server.join, path, query, none⟩)
    (serverLegal : server.Legal) (short : IsShort server.port)
    (rooted : path = [] ∨ ∃ rest, path = '/' :: rest) :
    decompose (Split.join ⟨some scheme, some server.join, path, query, none⟩) =
      .ok ⟨some scheme, server.userInfo, some server.host, portValue server.port, query⟩ := by
  have splits := (legal.firstMarks rfl rooted).eq_split
  have found : serverOf? ⟨some scheme, some server.join, path, query, none⟩ = some server :=
    serverOf?_eq_some_iff.mpr ⟨serverLegal, by rw [legal.trimmed_eq_self]⟩
  rw [decompose_eq_ok_iff, splits, legal.trimmed_eq_self, found]
  refine ⟨legal, short, ?_⟩
  simp only [Components.ofSplit, found]
  rfl

end ConnectionUri.Uri
