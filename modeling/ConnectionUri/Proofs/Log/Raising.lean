import ConnectionUri.Proofs.Log.Formatting
import ConnectionUri.Proofs.Log.Repetition
import ConnectionUri.Proofs.Log.Runs

/-!
# Log calls that fail

A handler drops a record that cannot be formatted, but a filter fails on it, and the failure ends the
log call. `Root.log_error_iff` says when a log call fails, and `raises_masked_iff_plain` compares the
same set-up with and without masks.
-/

set_option autoImplicit false

namespace ConnectionUri.Log

variable {record : Record} {error : FormatError}

theorem Record.exists_message_error_iff :
    (∃ error, record.message = .error error) ↔ ¬ record.Formats := by
  rw [Formats]
  cases record.message <;> simp

theorem Record.Formats.message_ne_error (formats : record.Formats) : record.message ≠ .error error :=
  fun written => record.exists_message_error_iff.mp ⟨error, written⟩ formats

/-!
## Filters and handlers
-/

theorem applyFilters_eq_error_iff {filters : List Filter} :
    applyFilters filters record = .error error ↔ filters ≠ [] ∧ record.message = .error error := by
  cases filters with
  | nil => simp [applyFilters]
  | cons filter rest =>
      cases filter
      cases written : record.message with
      | error problem =>
          have failed : record.redacted = .error problem := by
            rw [Record.redacted, written]
            rfl
          rw [applyFilters, failed]
          simp [Bind.bind, Except.bind]
      | ok message =>
          obtain ⟨filtered, passed, -⟩ :=
            Record.Formats.applyFilters ⟨message, written⟩ (.redaction :: rest)
          simp [passed]

theorem passTo_error_iff {stamp : Text} {handlers : List Handler} :
    (passTo stamp handlers record).error = some error ↔
      (∃ handler ∈ handlers, handler.filters ≠ []) ∧ record.message = .error error := by
  by_cases formats : record.Formats
  · have never : record.message ≠ .error error := formats.message_ne_error
    simp [formats.passTo stamp handlers, never]
  · obtain ⟨problem, written⟩ := record.exists_message_error_iff.mpr formats
    induction handlers with
    | nil => simp [passTo]
    | cons handler rest ih =>
        by_cases plain : handler.filters = []
        · have passed : applyFilters handler.filters record = .ok record := by
            rw [plain]
            rfl
          rw [passTo, passed]
          simpa [plain] using ih
        · have failed : applyFilters handler.filters record = .error problem :=
            applyFilters_eq_error_iff.mpr ⟨plain, written⟩
          rw [passTo, failed]
          simp [plain, written]

theorem Root.passes_own_filters {root : Root}
    (unmet : ¬ (record.isRoot = true ∧ root.filters ≠ [])) :
    (if record.isRoot then applyFilters root.filters record else .ok record) = .ok record := by
  cases isRoot : record.isRoot with
  | false => rfl
  | true =>
      have plain : root.filters = [] := by simpa [isRoot] using unmet
      rw [if_pos rfl, plain]
      rfl

/-- A log call fails where a filter meets a record that cannot be formatted. -/
theorem Root.log_error_iff {root : Root} {stamp : Text} :
    (root.log stamp record).error = some error ↔
      root.isEnabledFor record.level = true ∧ record.message = .error error ∧
        (record.isRoot = true ∧ root.filters ≠ [] ∨
          ∃ handler ∈ root.handlers, handler.filters ≠ []) := by
  by_cases formats : record.Formats
  · have never : record.message ≠ .error error := formats.message_ne_error
    simp [formats.log root stamp, never]
  obtain ⟨problem, written⟩ := record.exists_message_error_iff.mpr formats
  by_cases enabled : root.isEnabledFor record.level = true
  · by_cases met : record.isRoot = true ∧ root.filters ≠ []
    · have failed : applyFilters root.filters record = .error problem :=
        applyFilters_eq_error_iff.mpr ⟨met.2, written⟩
      simp [Root.log, enabled, met, failed, written]
    · have passed := Root.passes_own_filters met
      by_cases handled : root.handlers = []
      · have resorted : root.log stamp record = lastResort record := by
          simp [Root.log, enabled, passed, handled]
        rw [resorted, lastResort_error]
        simp [met, handled]
      · rw [root.log_of_enabled enabled handled stamp passed, passTo_error_iff]
        simp only [enabled, met, true_and, false_or, and_comm]
  · simp [Root.log, enabled]

/-!
## Set-ups with and without masks
-/

/-- A log call raises an error to its caller. -/
def Root.Raises (root : Root) (stamp : Text) (record : Record) : Prop :=
  ∃ error, (root.log stamp record).error = some error

/-- One of the set-ups that succeeded masks. -/
def Run.HasMasked (run : Run) : Prop := ∃ call ∈ run.succeeded, call.masks = true

namespace Root

variable {root after : Root} {levelName : Text} {masks : Bool} {file : Option LogFile} {stamp : Text}

theorem setup_of_error {problem : SetupError}
    (failed : root.setup levelName masks file = (.error problem, after)) (other : Bool) :
    root.setup levelName other file = (.error problem, after) :=
  setup_eq_error_iff.mpr (setup_eq_error_iff.mp failed)

theorem withRedaction_ne_nil_iff {filters : List Filter} :
    withRedaction masks filters ≠ [] ↔ masks = true ∨ filters ≠ [] := by
  cases masks with
  | false => simp [withRedaction]
  | true =>
      cases filters with
      | nil => simp [withRedaction]
      | cons filter rest =>
          cases filter
          simp [withRedaction]

theorem handlerFilters_ne_nil_iff : handlerFilters masks ≠ [] ↔ masks = true := by
  cases masks <;> simp [handlerFilters]

theorem exists_filtered_handler_iff {targets : List Target} (filled : targets ≠ []) :
    (∃ handler ∈ targets.map fun target => Handler.mk target (handlerFilters masks),
      handler.filters ≠ []) ↔ masks = true := by
  rw [← handlerFilters_ne_nil_iff]
  constructor
  · intro ⟨handler, member, filtered⟩
    obtain ⟨target, -, rfl⟩ := List.mem_map.mp member
    exact filtered
  · intro filtered
    obtain ⟨target, rest, rfl⟩ := List.exists_cons_of_ne_nil filled
    exact ⟨_, List.mem_cons_self, filtered⟩

/-- After a set-up a log call fails on every logger if it masks, and on the root logger alone if it
does not and the root has a filter from before. -/
theorem log_error_of_setup (done : root.setup levelName masks file = (.ok (), after)) :
    (after.log stamp record).error = some error ↔
      after.isEnabledFor record.level = true ∧ record.message = .error error ∧
        (masks = true ∨ record.isRoot = true ∧ root.filters ≠ []) := by
  obtain ⟨level, targets, -, opened, rfl⟩ := setup_eq_ok_iff.mp done
  rw [log_error_iff, exists_filtered_handler_iff opened.ne_nil, withRedaction_ne_nil_iff]
  cases masks <;> simp

theorem raises_of_setup (done : root.setup levelName masks file = (.ok (), after)) :
    after.Raises stamp record ↔ after.isEnabledFor record.level = true ∧ ¬ record.Formats ∧
      (masks = true ∨ record.isRoot = true ∧ root.filters ≠ []) := by
  simp only [Raises, log_error_of_setup done, exists_and_left, exists_and_right,
    Record.exists_message_error_iff]

theorem setup_of_ok (done : root.setup levelName masks file = (.ok (), after)) (other : Bool) :
    ∃ alike, root.setup levelName other file = (.ok (), alike) ∧ alike.level = after.level := by
  obtain ⟨level, targets, named, opened, rfl⟩ := setup_eq_ok_iff.mp done
  exact ⟨_, setup_eq_ok_iff.mpr ⟨level, targets, named, opened, rfl⟩, rfl⟩

end Root

theorem Run.filters_ne_nil_iff (actions : List Action) :
    (of actions).root.filters ≠ [] ↔ (of actions).HasMasked := by
  rw [filters, Root.handlerFilters_ne_nil_iff, List.any_eq_true]
  rfl

/-- After the same set-up with masks and without, the same log calls raise, except that with masks a
record that is not below the level and cannot be formatted raises, where without masks its handlers
drop it: on every logger but the root, and on the root too unless an earlier set-up masked. -/
theorem raises_masked_iff_plain (actions : List Action) (levelName : Text) (file : Option LogFile) :
    let root := (Run.of actions).root
    let masked := root.setup levelName true file
    let plain := root.setup levelName false file
    masked.1 = plain.1 ∧ masked.2.level = plain.2.level ∧
      (masked.1 ≠ .ok () → masked.2 = plain.2) ∧
      (masked.1 = .ok () → ∀ stamp record,
        (masked.2.Raises stamp record ↔
          masked.2.isEnabledFor record.level = true ∧ ¬ record.Formats) ∧
        (plain.2.Raises stamp record ↔
          plain.2.isEnabledFor record.level = true ∧ ¬ record.Formats ∧
            record.isRoot = true ∧ (Run.of actions).HasMasked)) ∧
      ∀ stamp record,
        ((masked.2.Raises stamp record ↔ plain.2.Raises stamp record) ↔
          (masked.1 = .ok () → masked.2.isEnabledFor record.level = true →
            record.Formats ∨ record.isRoot = true ∧ (Run.of actions).HasMasked)) := by
  intro root masked plain
  cases result : masked.1 with
  | error problem =>
      -- Both fail at the same place and leave the same root behind.
      have failed : masked = (.error problem, masked.2) := Prod.ext result rfl
      have same : plain = (.error problem, masked.2) := Root.setup_of_error failed false
      rw [same]
      simp
  | ok value =>
      have done : masked = (.ok (), masked.2) := Prod.ext result rfl
      obtain ⟨after, doneToo, sameLevel⟩ := Root.setup_of_ok done false
      have ofPlain : plain = (.ok (), after) := doneToo
      have raises : ∀ stamp record,
          (masked.2.Raises stamp record ↔
            masked.2.isEnabledFor record.level = true ∧ ¬ record.Formats) ∧
          (after.Raises stamp record ↔
            after.isEnabledFor record.level = true ∧ ¬ record.Formats ∧
              record.isRoot = true ∧ (Run.of actions).HasMasked) := by
        intro stamp record
        rw [Root.raises_of_setup done, Root.raises_of_setup doneToo, Run.filters_ne_nil_iff]
        simp
      rw [ofPlain]
      refine ⟨rfl, sameLevel.symm, fun failed => absurd rfl failed, fun _ => raises, ?_⟩
      intro stamp record
      have enabledToo : after.isEnabledFor record.level = masked.2.isEnabledFor record.level := by
        rw [Root.isEnabledFor, sameLevel, Root.isEnabledFor]
      rw [(raises stamp record).1, (raises stamp record).2, enabledToo]
      constructor
      · intro same _ enabled
        by_cases formats : record.Formats
        · exact .inl formats
        · exact .inr (same.mp ⟨enabled, formats⟩).2.2
      · intro alike
        constructor
        · rintro ⟨enabled, unfit⟩
          exact ⟨enabled, unfit, (alike rfl enabled).resolve_left unfit⟩
        · rintro ⟨enabled, unfit, -⟩
          exact ⟨enabled, unfit⟩

/-- A text for a number: with masks the log call raises, and without them the record is dropped. -/
theorem raises_masked_not_plain :
    ∃ record : Record, record.message = .error (.notNumber 'd' "str".toList) ∧
      ((Run.of []).root.setup "INFO".toList true none).2.Raises [] record ∧
      ¬ ((Run.of []).root.setup "INFO".toList false none).2.Raises [] record := by
  let record : Record := ⟨"parser".toList, .info, "%d items".toList, [.text "many".toList]⟩
  have written : record.message = .error (.notNumber 'd' "str".toList) := by rfl
  have unfit : ¬ record.Formats := record.exists_message_error_iff.mp ⟨_, written⟩
  obtain ⟨-, -, -, raises, -⟩ := raises_masked_iff_plain [] "INFO".toList none
  obtain ⟨masked, plain⟩ := raises rfl [] record
  refine ⟨record, written, masked.mpr ⟨by decide, unfit⟩, ?_⟩
  intro raised
  exact absurd (plain.mp raised).2.2.1 (by decide)

end ConnectionUri.Log
