import BulkActions.Proofs.Run.Lines
import BulkActions.Run.Evaluation

/-! Evaluations of the subjects of a stream. Every evaluator is scheduled for every subject exactly
once, and what the scheduler answers decides about that subject alone; how long it takes makes no
difference but to the order. -/

namespace BulkActions.Run

open Dataset Job

/-- What stays the same through a run that schedules evaluators. -/
structure Evaluation where
  site : Site
  evaluatorIds : List String
  scheduler : Scheduler
  settings : EvaluationSettings
  summary : SummarySettings

namespace Evaluation

def streamed (v : Evaluation) : Streamed Subject ScheduleCall :=
  ⟨v.site, evaluation v.site.projectId v.evaluatorIds v.scheduler, v.settings, v.summary⟩

def call (v : Evaluation) (subject : Subject) (evaluatorId : String) : ScheduleCall :=
  ⟨v.site.projectId, subject, evaluatorId⟩

/-- Each record of a stream with each place of the list of evaluators. -/
def pairs (v : Evaluation) (stream : List (StreamItem Subject)) : List (Nat × ScheduleCall) :=
  (recordsFrom 0 stream).flatMap fun (index, subject) =>
    v.evaluatorIds.map fun evaluatorId => (index, v.call subject evaluatorId)

/-- All evaluators can be scheduled for the record. -/
def succeeds (v : Evaluation) (index : Nat) (subject : Subject) : Bool :=
  v.evaluatorIds.zipIdx.all fun (evaluatorId, position) =>
    (v.scheduler.answer index position (v.call subject evaluatorId)).isNone

/-- The evaluators that cannot be scheduled for the record, in the order of the list. -/
def refusals (v : Evaluation) (index : Nat) (subject : Subject) : List (String × Error) :=
  v.evaluatorIds.zipIdx.filterMap fun (evaluatorId, position) =>
    (v.scheduler.answer index position (v.call subject evaluatorId)).map fun e => (evaluatorId, e)

def refusalLine (refusal : String × Error) : String :=
  "evaluator " ++ refusal.1 ++ ": " ++ refusal.2.message

/-- What becomes of a record: an error that names its subject and the evaluators that cannot be
scheduled, if there are any. -/
def verdict (v : Evaluation) (index : Nat) (subject : Subject) : Option Error :=
  if v.succeeds index subject then none
  else some (.scheduling (subject.displayId ++ ": " ++
    "; ".intercalate ((v.refusals index subject).map refusalLine)))

variable {v : Evaluation}

theorem isEmpty_refusals (v : Evaluation) (index : Nat) (subject : Subject) :
    (v.refusals index subject).isEmpty = v.succeeds index subject := by
  rw [Bool.eq_iff_iff, List.isEmpty_iff, refusals, List.filterMap_eq_nil_iff, succeeds,
    List.all_eq_true]
  simp

theorem failureLines_callsFor (answer : Nat → ScheduleCall → Option Error) (first : Nat)
    (projectId : String) (evaluatorIds : List String) (subject : Subject) :
    failureLines answer first (callsFor projectId evaluatorIds subject) =
      ((evaluatorIds.zipIdx first).filterMap fun (evaluatorId, position) =>
        (answer position ⟨projectId, subject, evaluatorId⟩).map fun e => (evaluatorId, e)).map
          refusalLine := by
  induction evaluatorIds generalizing first with
  | nil => rfl
  | cons evaluatorId rest ih =>
    have tail := ih (first + 1)
    simp only [callsFor] at tail
    simp only [callsFor, List.map_cons, failureLines, List.zipIdx_cons, List.filterMap_cons]
    cases answered : answer first ⟨projectId, subject, evaluatorId⟩ with
    | none => simpa [answered] using tail
    | some e => simp [tail, refusalLine, toString]

/-- The operation comes to the verdict. -/
theorem verdict_streamed (v : Evaluation) : v.streamed.verdict = v.verdict := by
  funext index subject
  have lines : failureLines (v.scheduler.answer index) 0
      (callsFor v.site.projectId v.evaluatorIds subject) =
        (v.refusals index subject).map refusalLine := failureLines_callsFor _ _ _ _ _
  have none : ((v.refusals index subject).map refusalLine).isEmpty = v.succeeds index subject := by
    rw [← isEmpty_refusals, List.isEmpty_map]
  simp only [Streamed.verdict, streamed, evaluation, evaluationTask, lines, none, verdict]
  rfl

theorem isNone_verdict (v : Evaluation) (index : Nat) (subject : Subject) :
    (v.verdict index subject).isNone = v.succeeds index subject := by
  rw [verdict]
  cases v.succeeds index subject <;> rfl

/-- One call after the other is made, in the order of the list. -/
theorem calls_task (v : Evaluation) (index : Nat) (subject : Subject) :
    (v.streamed.operation.task index subject).calls.map Prod.fst =
      v.evaluatorIds.map (v.call subject) := by
  simp only [streamed, evaluation, evaluationTask, List.map_map]
  calc ((callsFor v.site.projectId v.evaluatorIds subject).zipIdx).map _
    _ = ((callsFor v.site.projectId v.evaluatorIds subject).zipIdx).map Prod.fst := rfl
    _ = v.evaluatorIds.map (v.call subject) := List.zipIdx_map_fst _ _

theorem callsFor_worksOn (v : Evaluation) (stream : List (StreamItem Subject)) :
    (v.streamed.worksOn 0 stream).flatMap Work.callsFor = v.pairs stream := by
  rw [Streamed.worksOn, List.flatMap_map, pairs]
  congr 1
  funext record
  simp [Streamed.workOn, Work.callsFor, calls_task, Function.comp_def]

theorem results_worksOn (v : Evaluation) (stream : List (StreamItem Subject)) :
    (v.streamed.worksOn 0 stream).map Work.result =
      (recordsFrom 0 stream).map fun (index, subject) => (index, v.verdict index subject) := by
  rw [Streamed.worksOn, List.map_map]
  congr 1
  funext record
  simp [Streamed.workOn, Work.result, verdict_streamed]

/-- A run that can begin calls the scheduler exactly once for every record and every place of the
list of evaluators, and for nothing else, whatever it answers and however long it takes. A record is
processed exactly if all its calls succeed, and otherwise its error line names the evaluators that
failed, in the order of the list. No more records are under way than the settings allow, and no
batch is taken or begun before all work on earlier ones has ended. A run that cannot begin makes no
call. -/
theorem run_schedules_every_pair (v : Evaluation) (stream : List (StreamItem Subject))
    (s : State ScheduleCall) :
    (∃ (row : Action) (events : List (Event ScheduleCall)) (outcome : Outcome)
        (lines : List String),
      (s.write v.site (.started 0)).2 = .ok row ∧
      (v.streamed.run stream s).1.events = s.events ++ events ∧
      (callsMade events).Perm (v.pairs stream) ∧
      (completions events).Perm
        ((recordsFrom 0 stream).map fun (index, subject) => (index, v.verdict index subject)) ∧
      v.streamed.Reports stream s outcome ∧
      outcome.processed =
        (recordsFrom 0 stream).countP (fun (index, subject) => v.succeeds index subject) ∧
      outcome.failed = stream.length - outcome.processed ∧
      lines.Perm (failedLines v.verdict 0 stream) ∧
      v.streamed.retained stream s = lines.take v.settings.maxRetainedErrors ∧
      Paced (max 1 v.settings.maxConcurrency) (max 1 v.settings.batchSize) stream events) ∨
    ∃ e, (s.write v.site (.started 0)).2 = .error e ∧ (v.streamed.run stream s).2 = .error e ∧
      callsMade (v.streamed.run stream s).1.events = callsMade s.events := by
  rcases s.write_cases v.site (.started 0) with ⟨row, _, _, written⟩ | ⟨e, written⟩
  · left
    have accepted : (s.write v.streamed.site (.started 0)).2 =
        .ok (row.accept (.started 0) v.site.now) := congrArg Prod.snd written
    obtain ⟨events, added, called, ended, paced⟩ := Streamed.run_works_off accepted stream
    obtain ⟨outcome, reports, _, _, processed, failed⟩ :=
      Streamed.reports_of_begins ⟨_, accepted⟩ stream
    obtain ⟨lines, same, retained⟩ := Streamed.retained_eq_take v.streamed stream s
    have whole := Streamed.length_eq_ending v.streamed 0 stream
    rw [callsFor_worksOn] at called
    rw [results_worksOn] at ended
    rw [verdict_streamed] at same
    refine ⟨_, events, outcome, lines, accepted, added, called, ended, reports, ?_, ?_, same,
      retained, paced⟩
    · rw [processed, Streamed.successes_eq, verdict_streamed]
      simp only [isNone_verdict]
    · omega
  · right
    have stopped : v.streamed.run stream s = (s.refused (.started 0) e, .error e) :=
      Streamed.run_of_refused written
    exact ⟨e, by rw [written], by rw [stopped], by rw [stopped]; simp [State.refused, callsMade]⟩

end Evaluation

end BulkActions.Run
