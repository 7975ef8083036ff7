import ConnectionUri.Proofs.Log.Runs

/-!
# Level names

A text names a level if its upper case does. `Root.exists_setup_stream_iff` says that the level is all
that a set-up without a log file depends on, in every state of the root logger.
-/

set_option autoImplicit false

namespace ConnectionUri.Log

/-- A text is the name of a level in any case. -/
def NamesLevel (text : Text) : Prop := Text.upper text ∈ Level.names.map Prod.fst

instance (text : Text) : Decidable (NamesLevel text) :=
  inferInstanceAs (Decidable (Text.upper text ∈ Level.names.map Prod.fst))

theorem isSome_ofName?_iff {name : Text} :
    (Level.ofName? name).isSome ↔ name ∈ Level.names.map Prod.fst := by
  unfold Level.ofName?
  simp only [List.lookup_isSome_iff, List.mem_map, beq_iff_eq, @eq_comm _ name]

theorem exists_levelOfName_iff {name : Text} :
    (∃ level, levelOfName name = .ok level) ↔ NamesLevel name := by
  unfold NamesLevel
  rw [← isSome_ofName?_iff]
  unfold levelOfName
  cases found : Level.ofName? (Text.upper name) with
  | some level => simp [found]
  | none =>
      -- A name of something else than a level is an error of its own.
      simp only [found, Option.isSome_none, Bool.false_eq_true, iff_false]
      intro ⟨level, same⟩
      split at same
      · cases same
      · split at same
        · cases same
        · cases same

namespace Root

variable {root : Root} {levelName : Text} {masks : Bool} {file : Option LogFile}

/-- A text that names no level ends the set-up before it does anything. -/
theorem setup_of_unnamed (root : Root) (unnamed : ¬ NamesLevel levelName) :
    ∃ error, root.setup levelName masks file = (.error error, root) := by
  rw [← exists_levelOfName_iff] at unnamed
  cases named : levelOfName levelName with
  | ok level => exact absurd ⟨level, named⟩ unnamed
  | error error => exact ⟨error, setup_eq_error_iff.mpr (.inl ⟨named, rfl⟩)⟩

/-- A set-up without a log file succeeds exactly with the name of a level. -/
theorem exists_setup_stream_iff :
    (∃ after, root.setup levelName masks none = (.ok (), after)) ↔ NamesLevel levelName := by
  rw [← exists_levelOfName_iff]
  constructor
  · intro ⟨after, done⟩
    obtain ⟨level, targets, named, -, -⟩ := setup_eq_ok_iff.mp done
    exact ⟨level, named⟩
  · intro ⟨level, named⟩
    exact ⟨_, setup_eq_ok_iff.mpr ⟨level, _, named, .stream, rfl⟩⟩

/-- With any other text it fails, and the root logger stays as it was. -/
theorem exists_setup_stream_error_iff :
    (∃ error, root.setup levelName masks none = (.error error, root)) ↔ ¬ NamesLevel levelName := by
  refine ⟨fun ⟨error, failed⟩ known => ?_, root.setup_of_unnamed⟩
  obtain ⟨level, named⟩ := exists_levelOfName_iff.mpr known
  rcases setup_eq_error_iff.mp failed with ⟨unnamed, -⟩ | ⟨_, _, -, opened, -⟩
  · rw [named] at unnamed
    cases unnamed
  · cases opened

end Root

end ConnectionUri.Log
