import ConnectionUri.Proofs.Log.Levels
import ConnectionUri.Proofs.Log.Repetition

/-!
# Set-ups that fail

A set-up that does not know its level fails before it changes anything. One that cannot open its log
file has set the level and removed the handlers by then, and `failed_setup_unchanged_iff` finds the root
logger as it was only if neither made a difference. Only a set-up that succeeds brings handlers back,
and without them nothing masks what is logged below the root.
-/

set_option autoImplicit false

namespace ConnectionUri.Log

/-- Warnings that are logged below the root come to the stream as they are. -/
def Root.WritesBare (root : Root) : Prop :=
  ∀ stamp record message, record.isRoot = false → record.message = .ok message →
    root.isEnabledFor record.level = true → Level.severity .warning ≤ record.level.severity →
    root.log stamp record = ⟨[⟨.stream, message ++ ['\n']⟩], none⟩

namespace Root

variable {root : Root} {call : SetupCall}

theorem setup_of_failsToOpen (root : Root) (fails : call.FailsToOpen) :
    ∃ level error, levelOfName call.levelName = .ok level ∧
      root.setup call.levelName call.masks call.file =
        (.error error, { root with level, handlers := [] }) := by
  obtain ⟨⟨level, named⟩, reason, unopened⟩ := fails
  exact ⟨level, .fileFails reason, named,
    setup_eq_error_iff.mpr (.inr ⟨level, reason, named, unopened, rfl, rfl⟩)⟩

/-- A set-up fails on its level or on its log file. -/
theorem exists_setup_error_iff :
    (∃ error, (root.setup call.levelName call.masks call.file).1 = .error error) ↔
      ¬ NamesLevel call.levelName ∨ call.FailsToOpen := by
  constructor
  · intro ⟨error, failed⟩
    rcases setup_eq_error_iff.mp (Prod.ext failed rfl) with
      ⟨unnamed, -⟩ | ⟨level, reason, named, unopened, -⟩
    · refine .inl fun named => ?_
      obtain ⟨level, known⟩ := exists_levelOfName_iff.mpr named
      rw [known] at unnamed
      cases unnamed
    · exact .inr ⟨⟨level, named⟩, reason, unopened⟩
  · rintro (unnamed | fails)
    · obtain ⟨error, failed⟩ := root.setup_of_unnamed unnamed
      exact ⟨error, congrArg Prod.fst failed⟩
    · obtain ⟨level, error, -, failed⟩ := root.setup_of_failsToOpen fails
      exact ⟨error, congrArg Prod.fst failed⟩

theorem writesBare_of_no_handlers (unhandled : root.handlers = []) : root.WritesBare := by
  intro stamp record message elsewhere written enabled warning
  have resorted : lastResort record = ⟨[⟨.stream, message ++ ['\n']⟩], none⟩ := by
    rw [lastResort, if_neg (Nat.not_lt.mpr warning), written]
  simpa [log, enabled, elsewhere, unhandled] using resorted

end Root

namespace Run

theorem succeeded_next (run : Run) (action : Action) :
    run.succeeded <+: (run.next action).succeeded := by
  obtain ⟨call, -, succeeded, -⟩ | ⟨succeeded, -⟩ := run.next_cases action
  · rw [succeeded]
    exact List.prefix_append _ _
  · exact succeeded ▸ List.prefix_rfl

theorem handlers_next {run : Run} (unhandled : run.root.handlers = []) {action : Action}
    (unsuccessful : (run.next action).succeeded = run.succeeded) :
    (run.next action).root.handlers = [] := by
  obtain ⟨call, -, succeeded, -⟩ | ⟨-, ⟨call, error, -, failed⟩ | same⟩ := run.next_cases action
  · rw [succeeded] at unsuccessful
    exact absurd unsuccessful (by simp)
  · rcases Root.setup_eq_error_iff.mp failed with ⟨-, same⟩ | ⟨level, reason, -, -, -, after⟩
    · rw [same, unhandled]
    · rw [after]
  · rw [same, unhandled]

theorem succeeded_foldl (actions : List Action) (run : Run) :
    run.succeeded <+: (actions.foldl next run).succeeded := by
  induction actions generalizing run with
  | nil => exact List.prefix_rfl
  | cons action rest ih => exact (run.succeeded_next action).trans (ih (run.next action))

/-- Only a set-up that succeeds brings handlers. -/
theorem handlers_foldl {actions : List Action} {run : Run} (unhandled : run.root.handlers = [])
    (unsuccessful : (actions.foldl next run).succeeded = run.succeeded) :
    (actions.foldl next run).root.handlers = [] := by
  induction actions generalizing run with
  | nil => exact unhandled
  | cons action rest ih =>
      -- What the first action leaves lies between the beginning and the end, which are the same.
      have first : (run.next action).succeeded = run.succeeded := by
        have later : (run.next action).succeeded <+: run.succeeded :=
          unsuccessful ▸ succeeded_foldl rest (run.next action)
        exact later.eq_of_length_le (run.succeeded_next action).length_le
      exact ih (handlers_next unhandled first) (unsuccessful.trans first.symm)

theorem next_setup_of_error {run : Run} {call : SetupCall} {error : SetupError} {after : Root}
    (failed : run.root.setup call.levelName call.masks call.file = (.error error, after)) :
    (run.next (.setup call)).root = after ∧
      (run.next (.setup call)).succeeded = run.succeeded := by
  obtain ⟨result, root⟩ := run.journal.setup_eq call.levelName call.masks call.file
  rw [Run.root] at failed
  rw [failed] at result root
  cases done : run.journal.setup call.levelName call.masks call.file with
  | mk outcome journal =>
      rw [done] at result root
      cases result
      simp only [next, done]
      exact ⟨root, trivial⟩

/-- Once a log file could not be opened, warnings are written bare until a set-up succeeds. -/
theorem writesBare_of_failsToOpen {actions later : List Action} {call : SetupCall}
    (fails : call.FailsToOpen)
    (unsuccessful : (of (actions ++ .setup call :: later)).succeeded = (of actions).succeeded) :
    (of (actions ++ .setup call :: later)).root.WritesBare := by
  obtain ⟨level, error, -, failed⟩ := (of actions).root.setup_of_failsToOpen fails
  obtain ⟨after, succeeded⟩ := next_setup_of_error failed
  have split : of (actions ++ .setup call :: later) =
      later.foldl next ((of actions).next (.setup call)) := List.foldl_append
  rw [split] at unsuccessful ⊢
  refine Root.writesBare_of_no_handlers (handlers_foldl ?_ (unsuccessful.trans succeeded.symm))
  rw [after]

end Run

/-- In every state that set-ups and log calls lead to, a set-up that fails on its level changes nothing,
and one that fails on its log file keeps the filters of the root and nothing else: it changes nothing
only if the level was the same and there were no handlers. -/
theorem failed_setup_unchanged_iff (actions : List Action) (call : SetupCall) :
    let root := (Run.of actions).root
    let done := root.setup call.levelName call.masks call.file
    ((∃ error, done.1 = .error error) ↔ ¬ NamesLevel call.levelName ∨ call.FailsToOpen) ∧
      (¬ NamesLevel call.levelName → done.2 = root) ∧
      (call.FailsToOpen →
        (done.2 = root ↔ levelOfName call.levelName = .ok root.level ∧ root.handlers = []) ∧
        done.2.filters = root.filters ∧ done.2.handlers = [] ∧
        levelOfName call.levelName = .ok done.2.level ∧
        ∀ later, (Run.of (actions ++ .setup call :: later)).succeeded = (Run.of actions).succeeded →
          (Run.of (actions ++ .setup call :: later)).root.WritesBare) := by
  intro root done
  refine ⟨Root.exists_setup_error_iff, fun unnamed => ?_, fun fails => ?_⟩
  · obtain ⟨error, failed⟩ := root.setup_of_unnamed unnamed
    exact congrArg Prod.snd failed
  · obtain ⟨level, error, named, failed⟩ := root.setup_of_failsToOpen fails
    have after : done.2 = { root with level, handlers := [] } := congrArg Prod.snd failed
    have same : done.2 = root ↔ level = root.level ∧ root.handlers = [] := by
      rw [after]
      cases root
      simp [eq_comm]
    refine ⟨?_, ?_, ?_, ?_, fun later => Run.writesBare_of_failsToOpen fails⟩
    · rw [same, named, Except.ok.injEq]
    · rw [after]
    · rw [after]
    · rw [named, after]

/-- A set-up with masks, then one whose log file is a directory: the level is the new one, and a
password that was masked before is written as it is. -/
theorem failed_setup_drops_handlers :
    let first : List Action := [.setup ⟨"DEBUG".toList, true, none⟩]
    let call : SetupCall := ⟨"INFO".toList, true, some (.fails "Is a directory".toList)⟩
    let record : Record := ⟨"parser".toList, .warning, "pwd=hunter2".toList, []⟩
    let root := (Run.of first).root
    let after := (root.setup call.levelName call.masks call.file).2
    root = ⟨.debug, [.redaction], [⟨.stream, [.redaction]⟩]⟩ ∧ after = ⟨.info, [.redaction], []⟩ ∧
      after ≠ root ∧
      root.log [] record =
        ⟨[⟨.stream, line [] record "pwd=[MASKED_CREDENTIAL]".toList⟩], none⟩ ∧
      (Run.of (first ++ [.setup call])).root.log [] record =
        ⟨[⟨.stream, "pwd=hunter2\n".toList⟩], none⟩ := by
  intro first call record root after
  have fails : call.FailsToOpen := ⟨⟨.info, by rfl⟩, "Is a directory".toList, rfl⟩
  obtain ⟨-, -, onFile⟩ := failed_setup_unchanged_iff first call
  obtain ⟨unchanged, -, -, -, bare⟩ := onFile fails
  have before : root = ⟨.debug, [.redaction], [⟨.stream, [.redaction]⟩]⟩ := by decide
  refine ⟨before, by decide, fun same => ?_, by decide +kernel, ?_⟩
  · obtain ⟨-, none⟩ := unchanged.mp same
    cases none
  · exact bare [] (by rfl) [] record "pwd=hunter2".toList (by decide) (by rfl) (by decide) (by decide)

end ConnectionUri.Log
