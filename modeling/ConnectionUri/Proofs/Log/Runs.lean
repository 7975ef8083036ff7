import ConnectionUri.Log.Journal
import ConnectionUri.Proofs.Log.History

/-!
# Runs

A run is a journal on which set-ups and log calls were made in any order. It remembers the set-ups
that succeeded. Logging leaves the root logger alone, and so does a set-up that does not know its
level; a set-up that cannot open its file leaves the level and no handlers behind. `Run.filters` says
what every run makes of the root's filters, and `Run.setUp` that a run whose files can all be opened
is as good as its successful set-ups.
-/

set_option autoImplicit false

namespace ConnectionUri.Log

inductive Action where
  | setup (call : SetupCall)
  | log (stamp : Text) (record : Record)

/-- A journal after set-ups and log calls, with the set-ups that succeeded, the last of them last. -/
structure Run where
  journal : Journal
  succeeded : List SetupCall

namespace Run

def start : Run := ⟨.empty, []⟩

def root (run : Run) : Root := run.journal.root

def next (run : Run) : Action → Run
  | .setup call =>
    match run.journal.setup call.levelName call.masks call.file with
    | (.ok (), journal) => ⟨journal, run.succeeded ++ [call]⟩
    | (.error _, journal) => ⟨journal, run.succeeded⟩
  | .log stamp record => ⟨(run.journal.log stamp record).2, run.succeeded⟩

/-- The run of actions that begins before any set-up. -/
def of (actions : List Action) : Run := actions.foldl next start

end Run

/-!
## One step
-/

namespace Journal

theorem setup_eq (journal : Journal) (levelName : Text) (masks : Bool) (file : Option LogFile) :
    (journal.setup levelName masks file).1 = (journal.root.setup levelName masks file).1 ∧
      (journal.setup levelName masks file).2.root =
        (journal.root.setup levelName masks file).2 := ⟨rfl, rfl⟩

theorem root_write (journal : Journal) (entry : Write) : (journal.write entry).root = journal.root := by
  unfold write
  split <;> rfl

theorem root_log (journal : Journal) (stamp : Text) (record : Record) :
    (journal.log stamp record).2.root = journal.root := by
  refine List.foldlRecOn (motive := fun later : Journal => later.root = journal.root) _ write rfl ?_
  intro later same entry _
  exact (later.root_write entry).trans same

end Journal

def SetupCall.FailsToOpen (call : SetupCall) : Prop :=
  (∃ level, levelOfName call.levelName = .ok level) ∧ ∃ reason, call.file = some (.fails reason)

namespace Root

variable {root after : Root} {levelName : Text} {masks : Bool} {file : Option LogFile}
  {call : SetupCall} {error : SetupError}

/-- A set-up fails before it does anything, or after it has taken the handlers away. -/
theorem setup_eq_error_iff :
    root.setup levelName masks file = (.error error, after) ↔
      levelOfName levelName = .error error ∧ after = root ∨
        ∃ level reason, levelOfName levelName = .ok level ∧ file = some (.fails reason) ∧
          error = .fileFails reason ∧ after = { root with level, handlers := [] } := by
  unfold setup
  cases named : levelOfName levelName with
  | error problem => simp [eq_comm]
  | ok level =>
      match file with
      | none => simp
      | some .opens => simp
      | some (.fails reason) => simp [eq_comm]

theorem cases_of_setup_error
    (failed : root.setup call.levelName call.masks call.file = (.error error, after)) :
    after = root ∨ call.FailsToOpen ∧ after.filters = root.filters := by
  rcases setup_eq_error_iff.mp failed with ⟨-, same⟩ | ⟨level, reason, named, opened, -, rfl⟩
  · exact .inl same
  · exact .inr ⟨⟨⟨level, named⟩, reason, opened⟩, rfl⟩

theorem filters_of_setup_error
    (failed : root.setup call.levelName call.masks call.file = (.error error, after)) :
    after.filters = root.filters := by
  obtain rfl | ⟨-, same⟩ := cases_of_setup_error failed
  · rfl
  · exact same

end Root

namespace Run

/-- What a step can do: a set-up succeeds, a set-up fails, or something is logged. -/
theorem next_cases (run : Run) (action : Action) :
    (∃ call, action = .setup call ∧ (run.next action).succeeded = run.succeeded ++ [call] ∧
      run.root.setup call.levelName call.masks call.file = (.ok (), (run.next action).root)) ∨
    (run.next action).succeeded = run.succeeded ∧
      ((∃ call error, action = .setup call ∧
          run.root.setup call.levelName call.masks call.file =
            (.error error, (run.next action).root)) ∨
        (run.next action).root = run.root) := by
  cases action with
  | log stamp record => exact .inr ⟨rfl, .inr (run.journal.root_log stamp record)⟩
  | setup call =>
      obtain ⟨result, root⟩ := run.journal.setup_eq call.levelName call.masks call.file
      cases done : run.journal.setup call.levelName call.masks call.file with
      | mk outcome journal =>
          rw [done] at result root
          cases outcome with
          | ok value =>
              refine .inl ⟨call, rfl, ?_⟩
              simp only [next, done, Run.root]
              exact ⟨trivial, Prod.ext result.symm root.symm⟩
          | error error =>
              refine .inr ?_
              simp only [next, done, Run.root]
              exact ⟨trivial, .inl ⟨call, error, rfl, Prod.ext result.symm root.symm⟩⟩

end Run

/-!
## Whole runs
-/

namespace Run

theorem filters_next {run : Run}
    (filters : run.root.filters = Root.handlerFilters (run.succeeded.any (·.masks)))
    (action : Action) :
    (run.next action).root.filters =
      Root.handlerFilters ((run.next action).succeeded.any (·.masks)) := by
  obtain ⟨call, -, succeeded, done⟩ | ⟨succeeded, step⟩ := run.next_cases action
  · obtain ⟨level, targets, -, -, after⟩ := Root.setup_eq_ok_iff.mp done
    rw [succeeded, ← Root.withRedaction_append, ← filters, after]
  · rw [succeeded, ← filters]
    obtain ⟨call, error, -, failed⟩ | same := step
    · exact Root.filters_of_setup_error failed
    · rw [same]

/-- The root redacts as soon as a set-up that masks has succeeded. -/
theorem filters (actions : List Action) :
    (of actions).root.filters = Root.handlerFilters ((of actions).succeeded.any (·.masks)) :=
  List.foldlRecOn actions next (motive := fun run : Run =>
    run.root.filters = Root.handlerFilters (run.succeeded.any (·.masks))) rfl
    fun _ filters action _ => filters_next filters action

theorem setUp_next {run : Run} (history : SetUp run.succeeded run.root) {action : Action}
    (opening : ∀ call, action = .setup call → ¬ call.FailsToOpen) :
    SetUp (run.next action).succeeded (run.next action).root := by
  obtain ⟨call, -, succeeded, done⟩ | ⟨succeeded, step⟩ := run.next_cases action
  · rw [succeeded]
    exact .next call history done
  · rw [succeeded]
    obtain ⟨call, error, isSetup, failed⟩ | same := step
    · obtain same | ⟨fails, -⟩ := Root.cases_of_setup_error failed
      · rw [same]
        exact history
      · exact absurd fails (opening call isSetup)
    · rw [same]
      exact history

/-- If every file can be opened, the root logger is that of the successful set-ups alone. -/
theorem setUp {actions : List Action}
    (opening : ∀ call, Action.setup call ∈ actions → ¬ call.FailsToOpen) :
    SetUp (of actions).succeeded (of actions).root :=
  List.foldlRecOn actions next (motive := fun run : Run => SetUp run.succeeded run.root) .bare
    fun _ history _ member => setUp_next history fun call isSetup => opening call (isSetup ▸ member)

end Run

end ConnectionUri.Log
