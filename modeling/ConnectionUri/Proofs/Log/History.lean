import ConnectionUri.Log.Root

/-!
# Set-ups one after another

A set-up takes the place of the level and of the handlers that were there before it, but it only adds
to the filters of the root. `setup_after_history` says what is left of the earlier set-ups: the
filter of the root, once one of them asked for it.
-/

set_option autoImplicit false

namespace ConnectionUri.Log

/-- What a set-up is asked for. -/
structure SetupCall where
  levelName : Text
  masks : Bool
  file : Option LogFile

/-- The root logger after set-ups that all succeeded, the last of them last. -/
inductive SetUp : List SetupCall → Root → Prop where
  | bare : SetUp [] .bare
  | next {earlier : List SetupCall} {root after : Root} (call : SetupCall) :
      SetUp earlier root → root.setup call.levelName call.masks call.file = (.ok (), after) →
      SetUp (earlier ++ [call]) after

/-- Neither the root nor a handler filters records. -/
def Root.Unfiltered (root : Root) : Prop :=
  root.filters = [] ∧ ∀ handler ∈ root.handlers, handler.filters = []

/-- The targets of a set-up whose log file can be opened. -/
inductive Targets : Option LogFile → List Target → Prop where
  | stream : Targets none [.stream]
  | file : Targets (some .opens) [.stream, .file]

namespace Root

variable {root after : Root} {levelName : Text} {masks : Bool} {file : Option LogFile}

theorem setup_eq_ok_iff :
    root.setup levelName masks file = (.ok (), after) ↔
      ∃ level targets, levelOfName levelName = .ok level ∧ Targets file targets ∧
        after = ⟨level, withRedaction masks root.filters,
          targets.map fun target => ⟨target, handlerFilters masks⟩⟩ := by
  unfold setup
  cases named : levelOfName levelName with
  | error error => simp
  | ok level =>
      match file with
      | none =>
          constructor
          · intro same
            exact ⟨level, _, rfl, .stream, (Prod.mk.inj same).2.symm⟩
          · rintro ⟨_, _, ⟨⟩, ⟨⟩, rfl⟩
            rfl
      | some .opens =>
          constructor
          · intro same
            exact ⟨level, _, rfl, .file, (Prod.mk.inj same).2.symm⟩
          · rintro ⟨_, _, ⟨⟩, ⟨⟩, rfl⟩
            rfl
      | some (.fails reason) =>
          constructor
          · intro same
            cases (Prod.mk.inj same).1
          · rintro ⟨_, _, _, ⟨⟩, _⟩

theorem withRedaction_handlerFilters (masks before : Bool) :
    withRedaction masks (handlerFilters before) = handlerFilters (masks || before) := by
  cases masks <;> cases before <;> rfl

theorem handlerFilters_eq_iff {left right : Bool} :
    handlerFilters left = handlerFilters right ↔ left = right := by
  cases left <;> cases right <;> decide

end Root

/-- One more set-up adds the filter of the root if it is the first one that masks. -/
theorem Root.withRedaction_append (earlier : List SetupCall) (call : SetupCall) :
    withRedaction call.masks (handlerFilters (earlier.any (·.masks))) =
      handlerFilters ((earlier ++ [call]).any (·.masks)) := by
  calc withRedaction call.masks (handlerFilters (earlier.any (·.masks)))
      = handlerFilters (call.masks || earlier.any (·.masks)) :=
        withRedaction_handlerFilters _ _
    _ = handlerFilters ((earlier ++ [call]).any (·.masks)) := by
        rw [List.any_append, Bool.or_comm]
        simp

theorem SetUp.filters {earlier : List SetupCall} {root : Root} (history : SetUp earlier root) :
    root.filters = Root.handlerFilters (earlier.any (·.masks)) := by
  induction history with
  | bare => rfl
  | @next earlier root after call _ done ih =>
      obtain ⟨level, targets, -, -, rfl⟩ := Root.setup_eq_ok_iff.mp done
      calc Root.withRedaction call.masks root.filters
          = Root.withRedaction call.masks (Root.handlerFilters (earlier.any (·.masks))) := by
            rw [ih]
        _ = Root.handlerFilters ((earlier ++ [call]).any (·.masks)) :=
            Root.withRedaction_append earlier call

/-- A set-up makes the same level and the same handlers whatever went before it, and the same
filters of the root unless it asks for none after a set-up that asked for one. -/
theorem setup_after_history {earlier : List SetupCall} {root after : Root} {levelName : Text}
    {masks : Bool} {file : Option LogFile} (history : SetUp earlier root)
    (done : root.setup levelName masks file = (.ok (), after)) :
    ∃ alone, Root.bare.setup levelName masks file = (.ok (), alone) ∧
      after.level = alone.level ∧ after.handlers = alone.handlers ∧
      after.filters = Root.handlerFilters (masks || earlier.any (·.masks)) ∧
      (after.filters = alone.filters ↔ masks = true ∨ ∀ call ∈ earlier, call.masks = false) ∧
      (masks = false → (after.Unfiltered ↔ ∀ call ∈ earlier, call.masks = false)) := by
  obtain ⟨level, targets, named, opened, rfl⟩ := Root.setup_eq_ok_iff.mp done
  have never : earlier.any (·.masks) = false ↔ ∀ call ∈ earlier, call.masks = false := by simp
  have filters : Root.withRedaction masks root.filters =
      Root.handlerFilters (masks || earlier.any (·.masks)) := by
    rw [history.filters, Root.withRedaction_handlerFilters]
  refine ⟨_, Root.setup_eq_ok_iff.mpr ⟨level, targets, named, opened, rfl⟩, rfl, rfl, filters,
    ?_, ?_⟩
  · have alone : Root.withRedaction masks Root.bare.filters = Root.handlerFilters masks := by
      rw [SetUp.bare.filters, Root.withRedaction_handlerFilters]
      exact congrArg _ (Bool.or_false masks)
    show Root.withRedaction masks root.filters = Root.withRedaction masks Root.bare.filters ↔ _
    rw [filters, alone, Root.handlerFilters_eq_iff, ← never]
    cases masks <;> simp
  · rintro rfl
    rw [Root.Unfiltered, ← never]
    constructor
    · rintro ⟨none, -⟩
      rw [← Root.handlerFilters_eq_iff]
      exact filters.symm.trans none
    · intro quiet
      refine ⟨filters.trans (by rw [quiet]; rfl), ?_⟩
      intro handler member
      obtain ⟨target, -, rfl⟩ := List.mem_map.mp member
      rfl

/-- A set-up that asks for masks leaves the filter of the root behind. -/
theorem setup_unmasked_after_masked :
    ∃ root after, SetUp [⟨"DEBUG".toList, true, none⟩] root ∧
      root.setup "INFO".toList false none = (.ok (), after) ∧
      after.filters = [.redaction] ∧ ¬ after.Unfiltered := by
  let root : Root := ⟨.debug, [.redaction], [⟨.stream, [.redaction]⟩]⟩
  let after : Root := ⟨.info, [.redaction], [⟨.stream, []⟩]⟩
  have history : SetUp [⟨"DEBUG".toList, true, none⟩] root :=
    .next _ .bare (Root.setup_eq_ok_iff.mpr ⟨.debug, _, rfl, .stream, rfl⟩)
  have done : root.setup "INFO".toList false none = (.ok (), after) :=
    Root.setup_eq_ok_iff.mpr ⟨.info, _, rfl, .stream, rfl⟩
  obtain ⟨_, -, -, -, filters, -, unfiltered⟩ := setup_after_history history done
  refine ⟨root, after, history, done, filters, ?_⟩
  rw [unfiltered rfl]
  intro never
  cases never _ (List.mem_singleton_self _)

end ConnectionUri.Log
