import BulkActions.Dataset.Item
import BulkActions.Run.Streamed

/-! Scheduling every evaluator for every subject. All evaluators are tried; a subject fails if any
of them could not be scheduled. -/

namespace BulkActions.Run

open Dataset

structure ScheduleCall where
  projectId : String
  subject : Subject
  evaluatorId : String
  deriving DecidableEq, Repr

/-- The answer to a call and how long it takes, by the position of the record and of the
evaluator. -/
structure Scheduler where
  answer : Nat → Nat → ScheduleCall → Option Job.Error
  duration : Nat → Nat → ScheduleCall → Nat

def scheduledEntry (subject : Subject) (evaluators : Nat) : Journal.Entry where
  level := .debug
  origin := .evaluation
  message := "Scheduled evaluations"
  fields := [("target_id", .shown subject.displayId), ("evaluators", .number evaluators)]

/-- The lines of the evaluators that could not be scheduled, in order. -/
def failureLines (answer : Nat → ScheduleCall → Option Job.Error) :
    Nat → List ScheduleCall → List String
  | _, [] => []
  | position, call :: rest =>
    match answer position call with
    | none => failureLines answer (position + 1) rest
    | some e =>
      s!"evaluator {call.evaluatorId}: {e.message}" :: failureLines answer (position + 1) rest

def callsFor (projectId : String) (evaluatorIds : List String) (subject : Subject) :
    List ScheduleCall :=
  evaluatorIds.map fun evaluatorId => ⟨projectId, subject, evaluatorId⟩

def evaluationTask (projectId : String) (evaluatorIds : List String) (scheduler : Scheduler)
    (index : Nat) (subject : Subject) : Task ScheduleCall :=
  let calls := callsFor projectId evaluatorIds subject
  let lines := failureLines (scheduler.answer index) 0 calls
  let reason := "; ".intercalate lines
  { calls := calls.zipIdx.map fun (call, position) =>
      (call, scheduler.duration index position call)
    failure :=
      if lines.isEmpty then none
      else some (.scheduling s!"{subject.displayId}: {reason}")
    notes := if lines.isEmpty then [scheduledEntry subject evaluatorIds.length] else [] }

def evaluation (projectId : String) (evaluatorIds : List String) (scheduler : Scheduler) :
    Operation Subject ScheduleCall where
  describe := "evaluators: " ++ ", ".intercalate evaluatorIds
  task := evaluationTask projectId evaluatorIds scheduler

end BulkActions.Run
