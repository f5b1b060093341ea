import BulkActions.Proofs.Run.Attempts

/-! A job that was brought to its end is left alone from then on. An outcome is reported only of a row
that was written as finished, whatever was lost on the way; and a finished row is skipped by every
later call. -/

namespace BulkActions.Run

open Dataset Job

namespace Processor

/-- What may pass while nobody else writes to a row: its job is processed again, by whichever
processor, and other things happen that leave the row as it is. -/
inductive Elapses [Path.Evaluator] (key : RowKey) (store : Store) : Store → Prop where
  | start : Elapses key store store
  | processed {now : Store} (before : Elapses key store now) (p : Processor)
      (own : p.site.key = key) : Elapses key store (after now p)
  | elsewhere {now next : Store} (before : Elapses key store now)
      (same : next.find key = now.find key) : Elapses key store next

/-- Neither a service nor the store was asked for anything, but for the row of the job. -/
structure Idle {κ : Type} (events : List (Event κ)) : Prop extends Quiet events where
  unselected : selections events = []

section Finished

variable [Path.Evaluator] {p : Processor} {store : Store} {row : Action}
  (found : store.find p.site.key = some row) (terminal : row.status.isTerminal = true)

include found terminal

theorem process_of_finished (readable : p.site.failingFind = none) :
    p.process (.ofStore store) =
      ((State.ofStore store).note (p.alreadyFinished row.status), .ok none) := by
  simp only [process, find_ofStore readable found, terminal, ↓reduceIte]

/-- Whether its row can be read or not, processing a finished job changes nothing. -/
theorem after_of_finished : after store p = store := by
  unfold after
  cases readable : p.site.failingFind with
  | none => rw [process_of_finished found terminal readable]; rfl
  | some e => simp only [process, find, readable]; rfl

end Finished

/-- A finished row stays as it is. -/
theorem Elapses.find_eq [Path.Evaluator] {key : RowKey} {store later : Store}
    (elapses : Elapses key store later) {row : Action} (found : store.find key = some row)
    (terminal : row.status.isTerminal = true) :
    later.find key = some row := by
  induction elapses with
  | start => exact found
  | @processed now before p own ih =>
    subst own
    rw [after_of_finished ih terminal]
    exact ih
  | elsewhere before same ih => exact same.trans ih

section Reported

variable [Path.Evaluator] {p : Processor} {store : Store} {s : State ScheduleCall} {o : Outcome}
  (reported : p.process (.ofStore store) = (s, .ok (some o)))

include reported

/-- No outcome is reported of a row that could not be read. -/
theorem exists_row_of_outcome : ∃ row, store.find p.site.key = some row := by
  cases readable : p.site.failingFind with
  | some e =>
    simp only [process, find, readable] at reported
    cases reported
  | none =>
    cases found : store.find p.site.key with
    | some row => exact ⟨row, rfl⟩
    | none =>
      simp only [process, find, readable, State.ofStore, found] at reported
      cases reported

/-- A reported outcome is that of a row that was written as finished. -/
theorem finished_of_outcome (keyed : store.Keyed) :
    ∃ row, s.store.find p.site.key = some row ∧ row.status.isTerminal = true := by
  obtain ⟨row, found⟩ := exists_row_of_outcome reported
  have left := leaves_process (keyed _ row found) found
  rw [reported] at left
  rcases left.of_outcome with ⟨reason, _, stored, _⟩ | ⟨_, ran⟩
  · exact ⟨_, stored, rfl⟩
  · cases ran with
    | @ended _ _ next stored _ same status _ =>
      have kept : next.status = o.status := congrArg Outcome.status same
      refine ⟨next, stored, ?_⟩
      rw [kept, status]
      exact Status.isTerminal_ofCounts _ _

end Reported

/-- Once processing a job has reported an outcome, whatever the services answered and whichever writes
were lost, the job is skipped: as long as nobody else writes to its row, every later call that can
read the row comes to nothing. It asks for no records, submits and schedules nothing, writes nothing,
and leaves the store with its history as it is; and the row is still that of the first call. -/
theorem finished_job_is_skipped [Path.Evaluator] {p q : Processor} {store later : Store}
    (keyed : store.Keyed) {s : State ScheduleCall} {o : Outcome}
    (reported : p.process (.ofStore store) = (s, .ok (some o)))
    (elapses : Elapses p.site.key s.store later) (same : q.site.key = p.site.key)
    (readable : q.site.failingFind = none) :
    ∃ t, q.process (.ofStore later) = (t, .ok none) ∧ Idle t.events ∧ t.store = later ∧
      later.find p.site.key = s.store.find p.site.key := by
  obtain ⟨row, stored, terminal⟩ := finished_of_outcome reported keyed
  have kept := elapses.find_eq stored terminal
  have found : later.find q.site.key = some row := by
    rw [same]
    exact kept
  refine ⟨_, process_of_finished found terminal readable, ?_, rfl, kept.trans stored.symm⟩
  exact { quiet_noted _ with unselected := rfl }

/-- A run that loses the progress it makes, but not its end. -/
def unrecordedProcessor : Processor :=
  { interruptedRun with
    site := { sampleSite with
      failingWrite := fun number _ => if number = 1 then some (.database "gone") else none } }

/-- The store after that run, and after a further call and the insertion of another job. -/
def endedStore : Store :=
  (unrecordedProcessor.process (.ofStore (Store.empty.create retriedJob "a" ⟨0, 0, 0⟩).2)).1.store

def laterStore : Store := (after endedStore interruptedRun).insert { sampleJob with id := "b" }

theorem finished_job_is_skipped_unrecorded :
    (Store.empty.create retriedJob "a" ⟨0, 0, 0⟩).2.Keyed ∧
    Elapses unrecordedProcessor.site.key endedStore laterStore ∧
    unselectedRun.site.key = unrecordedProcessor.site.key ∧
    unselectedRun.site.failingFind = none ∧
    ∃ s, unrecordedProcessor.process (.ofStore (Store.empty.create retriedJob "a" ⟨0, 0, 0⟩).2) =
        (s, .ok (some ⟨.completed, 1, 1, 0, none⟩)) ∧
      ∃ t, unselectedRun.process (.ofStore laterStore) = (t, .ok none) ∧ Idle t.events ∧
        t.store = laterStore ∧
        laterStore.find unrecordedProcessor.site.key = s.store.find unrecordedProcessor.site.key := by
  have keyed : (Store.empty.create retriedJob "a" ⟨0, 0, 0⟩).2.Keyed :=
    Store.keyed_empty.insert (retriedJob.create "a" ⟨0, 0, 0⟩)
  have elapses : Elapses unrecordedProcessor.site.key endedStore laterStore :=
    .elsewhere (.processed .start interruptedRun rfl) rfl
  have reported : unrecordedProcessor.process
      (.ofStore (Store.empty.create retriedJob "a" ⟨0, 0, 0⟩).2) =
        ((unrecordedProcessor.process
          (.ofStore (Store.empty.create retriedJob "a" ⟨0, 0, 0⟩).2)).1,
          .ok (some ⟨.completed, 1, 1, 0, none⟩)) := rfl
  exact ⟨keyed, elapses, rfl, rfl, _, reported,
    finished_job_is_skipped keyed reported elapses rfl rfl⟩

end Processor

end BulkActions.Run
