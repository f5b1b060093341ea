import BulkActions.Proofs.Run.Remains

/-! How long the log of a job can become. A run cuts its log to the limit of the settings; the
reason of a job that could not start is stored as it is, however long. -/

namespace BulkActions.Run

open Job

namespace Processor

theorem log_rowFailed (p : Processor) (a : Action) (reason : String) :
    (p.rowFailed a reason).log = some reason := rfl

/-- Whenever processing a job without a log reports an outcome, whichever writes were lost before,
the row holds the log of the outcome. The log keeps the limit of the settings exactly if the job
could start, or could not for a reason that is short enough. -/
theorem log_within_limit_iff [Path.Evaluator] (p : Processor) {store : Store} {a : Action}
    {s : State ScheduleCall} {o : Outcome} (keyed : store.Keyed)
    (found : store.find p.site.key = some a) (unlogged : a.log = none) (reported : p.process (.ofStore store) = (s, .ok (some o))) :
    (∃ row, s.store.find p.site.key = some row ∧ row.log = o.log) ∧
    ((∀ log, o.log = some log → log.length ≤ p.settings.summary.maxLogChars) ↔
      ∀ reason, p.Barred a reason → reason.length ≤ p.settings.summary.maxLogChars) := by
  have left := leaves_process (keyed _ a found) found
  rw [reported] at left
  rcases left.of_outcome with ⟨reason, barred, stored, rfl⟩ | ⟨free, ran⟩
  · refine ⟨⟨_, stored, rfl⟩, ?_, ?_⟩
    · intro within other also
      rw [← barred.unique also]
      exact within reason (p.log_rowFailed a reason)
    · intro short log logged
      rw [← Option.some.inj ((p.log_rowFailed a reason).symm.trans logged)]
      exact short reason barred
  · cases ran with
    | @ended _ _ row found _ stored _ bounded =>
      have log : row.log = o.log.or a.log := congrArg Outcome.log stored
      refine ⟨⟨row, found, by rw [log, unlogged, Option.or_none]⟩, ?_, fun _ => bounded⟩
      exact fun _ reason barred => absurd barred (free reason)

/-- An evaluation that was just created. -/
def freshStore : Store :=
  (Store.empty.create ⟨"p", "u", .runEvaluation, .null, .obj [("evaluatorIds", .arr [.str "e"])]⟩
    "a" ⟨0, 0, 0⟩).2

def freshJob : Action :=
  NewAction.create ⟨"p", "u", .runEvaluation, .null, .obj [("evaluatorIds", .arr [.str "e"])]⟩ "a"
    ⟨0, 0, 0⟩

/-- The selector is down, and there is room for a log of twenty characters. -/
def terseProcessor : Processor :=
  { sampleProcessor with settings := { summary := { maxLogChars := 20 } } }

def terseState : State ScheduleCall := (terseProcessor.process (.ofStore freshStore)).1

def terseOutcome : Outcome :=
  ⟨.failed, 0, 0, 0, some "Failed to select records: Selection error: down"⟩

theorem log_within_limit_iff_terse :
    freshStore.Keyed ∧ freshStore.find terseProcessor.site.key = some freshJob ∧
    freshJob.log = none ∧
    terseProcessor.process (.ofStore freshStore) = (terseState, .ok (some terseOutcome)) ∧
    (∃ row, terseState.store.find terseProcessor.site.key = some row ∧
      row.log = terseOutcome.log) ∧
    ¬ ∀ reason, terseProcessor.Barred freshJob reason → reason.length ≤ 20 := by
  have keyed : freshStore.Keyed := Store.keyed_empty.insert freshJob
  have found : freshStore.find terseProcessor.site.key = some freshJob := rfl
  have reported : terseProcessor.process (.ofStore freshStore) =
      (terseState, .ok (some terseOutcome)) := rfl
  obtain ⟨stored, within⟩ := log_within_limit_iff terseProcessor keyed found rfl reported
  refine ⟨keyed, found, rfl, reported, stored, ?_⟩
  intro short
  exact absurd (within.mpr short _ rfl) (by decide)

/-- The reason why no records could be selected is longer than the log may be, and it is the log of
the outcome and of the row. -/
theorem overlong_reason_is_logged :
    freshJob.log = none ∧ freshStore.find terseProcessor.site.key = some freshJob ∧
    ∃ s o log, terseProcessor.process (.ofStore freshStore) = (s, .ok (some o)) ∧
      o.log = some log ∧
      (s.store.find terseProcessor.site.key).map Action.log = some (some log) ∧
      terseProcessor.settings.summary.maxLogChars < log.length :=
  ⟨rfl, rfl, terseState, terseOutcome, _, rfl, rfl, rfl, by decide⟩

end Processor

end BulkActions.Run
