import BulkActions.Proofs.Run.Remains

/-! A job that is processed again and again, since any run may be interrupted: a write that is lost
can leave it to be worked on, with counts of records that were handled. A later run starts these
counts over, unless it cannot start: then it ends the job as failed and leaves them as they are. -/

namespace BulkActions.Run

open Dataset Job

namespace Processor

/-- The store after processing a job, whatever came of it. -/
def after [Path.Evaluator] (store : Store) (p : Processor) : Store :=
  (p.process (.ofStore store)).1.store

def afterAll [Path.Evaluator] (store : Store) (runs : List Processor) : Store :=
  runs.foldl after store

theorem afterAll_append [Path.Evaluator] (store : Store) (earlier later : List Processor) :
    afterAll store (earlier ++ later) = afterAll (afterAll store earlier) later := by
  simp [afterAll]

/-- A job that cannot start is ended, although records of it were processed before. -/
def GivesUpOn [Path.Evaluator] (p : Processor) (store : Store) : Prop :=
  ∃ a reason o, store.find p.site.key = some a ∧ a.processed ≠ 0 ∧ p.Barred a reason ∧
    (p.process (.ofStore store)).2 = .ok (some o)

/-- Nothing was processed of the job if it failed. -/
def FailsClean (a : Action) : Prop := a.status = .failed → a.processed = 0

theorem failsClean_of_ofCounts {a : Action} (counted : a.status = .ofCounts a.processed a.failed) :
    FailsClean a := by
  intro failed
  rw [counted] at failed
  unfold Status.ofCounts at failed
  split at failed
  · cases failed
  · split at failed
    · assumption
    · cases failed

section Step

variable [Path.Evaluator] {p : Processor} {store : Store} {a : Action}
  (found : store.find p.site.key = some a) (own : p.site.key = ⟨a.projectId, a.id⟩)

include found own

/-- One run leaves a clean job clean, or gives up on it. -/
theorem find_after :
    ∃ b, (after store p).find p.site.key = some b ∧ a.Precedes b ∧
      (FailsClean a → FailsClean b ∨ p.GivesUpOn store) := by
  have left := leaves_process own found
  unfold after
  generalize reported : p.process (.ofStore store) = result at left
  cases left with
  | untouched same => exact ⟨a, same, .refl a, .inl⟩
  | skipped _ same => exact ⟨a, same, .refl a, .inl⟩
  | @failed s reason barred follows stored =>
    refine ⟨_, stored, follows, fun _ => ?_⟩
    by_cases none : a.processed = 0
    · exact .inl fun _ => none
    · exact .inr ⟨a, reason, _, found, none, barred, by rw [reported]⟩
  | ran free ran =>
    cases ran with
    | untouched same => exact ⟨a, same, .refl a, .inl⟩
    | underway stored begun =>
      refine ⟨_, stored, begun.follows, fun _ => .inl ?_⟩
      intro failed
      rw [begun.processing] at failed
      cases failed
    | @ended s o b stored follows same status bounded =>
      refine ⟨b, stored, follows, fun _ => .inl (failsClean_of_ofCounts ?_)⟩
      have parts := Outcome.mk.inj same
      rw [parts.1, parts.2.2.1, parts.2.2.2.1]
      exact status

/-- A run that gives up on a job leaves it failed, with records processed. -/
theorem not_failsClean_after (gives : p.GivesUpOn store) :
    ∃ b, (after store p).find p.site.key = some b ∧ ¬ FailsClean b := by
  obtain ⟨present, reason, o, same, some, barred, reported⟩ := gives
  cases Option.some.inj (found.symm.trans same)
  have left := leaves_process own found
  have whole : p.process (.ofStore store) = ((p.process (.ofStore store)).1, .ok (.some o)) :=
    Prod.ext rfl reported
  rw [whole] at left
  rcases left.of_outcome with ⟨_, _, stored, _⟩ | ⟨free, _⟩
  · exact ⟨_, stored, fun clean => some (clean rfl)⟩
  · exact absurd barred (free reason)

end Step

theorem key_of_precedes {a b : Action} (follows : a.Precedes b) {key : RowKey}
    (own : key = ⟨a.projectId, a.id⟩) : key = ⟨b.projectId, b.id⟩ := by
  have same := follows.creation
  simp only [Action.creation, Prod.mk.injEq, NewAction.mk.injEq] at same
  rw [own, same.1.1, same.2.1]

section Runs

variable [Path.Evaluator] {key : RowKey} {runs : List Processor}
  (ours : ∀ p ∈ runs, p.site.key = key) {store : Store} {a : Action} (found : store.find key = some a)
  (own : key = ⟨a.projectId, a.id⟩)

include ours found own

/-- Through any runs a clean job stays clean, unless one of them gives up on it. -/
theorem find_afterAll :
    ∃ b, (afterAll store runs).find key = some b ∧ a.Precedes b ∧
      (FailsClean a → FailsClean b ∨
        ∃ earlier p later, runs = earlier ++ p :: later ∧
          p.GivesUpOn (afterAll store earlier)) := by
  induction runs generalizing store a with
  | nil => exact ⟨a, found, .refl a, .inl⟩
  | cons p rest ih =>
    obtain ⟨here, others⟩ := List.forall_mem_cons.mp ours
    subst here
    obtain ⟨b, next, step, onward⟩ := find_after found own
    obtain ⟨c, last, steps, ending⟩ := ih others next (key_of_precedes step own)
    refine ⟨c, last, step.trans steps, fun clean => ?_⟩
    rcases onward clean with kept | gives
    · rcases ending kept with keptAll | ⟨earlier, q, later, rfl, gives⟩
      · exact .inl keptAll
      · exact .inr ⟨p :: earlier, q, later, rfl, gives⟩
    · exact .inr ⟨[], p, rest, rfl, gives⟩

end Runs

/-- A created job is processed any number of times, and each time the services answer and the store
loses writes as they like. A job that failed has then processed nothing, at every point, exactly if
no run gave up on records that an interrupted one had processed. A point within a run is the end of a
run whose later writes are lost. -/
theorem failed_job_processed_nothing_iff [Path.Evaluator] (store : Store) (new : NewAction)
    (id : String) (now : Instant) {runs : List Processor}
    (ours : ∀ p ∈ runs, p.site.key = ⟨new.projectId, id⟩) :
    (∀ n, ∃ b, (afterAll (store.create new id now).2 (runs.take n)).find ⟨new.projectId, id⟩ =
        some b ∧ (b.status = .failed → b.processed = 0)) ↔
      ∀ earlier p later, runs = earlier ++ p :: later →
        ¬ p.GivesUpOn (afterAll (store.create new id now).2 earlier) := by
  have created : (store.create new id now).2.find ⟨new.projectId, id⟩ =
      some (new.create id now) := by
    rw [Store.create, Store.find_insert]
    exact if_pos rfl
  constructor
  · rintro clean earlier p later rfl gives
    have before : ∀ q ∈ earlier, q.site.key = ⟨new.projectId, id⟩ := fun q member =>
      ours q (List.mem_append_left _ member)
    have here := ours p (by simp)
    obtain ⟨a, found, follows, _⟩ := find_afterAll before created rfl
    rw [← here] at found
    obtain ⟨b, last, dirty⟩ :=
      not_failsClean_after found (here.trans (key_of_precedes follows rfl)) gives
    obtain ⟨c, same, kept⟩ := clean (earlier.length + 1)
    rw [List.take_length_add_append, afterAll_append, ← here] at same
    cases Option.some.inj (last.symm.trans same)
    exact dirty kept
  · intro kept n
    have upTo : ∀ p ∈ runs.take n, p.site.key = ⟨new.projectId, id⟩ := fun p member =>
      ours p (List.mem_of_mem_take member)
    have fresh : FailsClean (new.create id now) := fun failed => nomatch failed
    obtain ⟨b, last, _, onward⟩ := find_afterAll upTo created rfl
    refine ⟨b, last, ?_⟩
    rcases onward fresh with done | ⟨earlier, p, later, split, gives⟩
    · exact done
    · refine absurd gives (kept earlier p (later ++ runs.drop n) ?_)
      rw [← List.cons_append, ← List.append_assoc, ← split, List.take_append_drop]

/-- A job that adds observations to a dataset. -/
def retriedJob : NewAction :=
  ⟨"p", "u", .addToDataset, .null, .obj [("datasetId", .str "d")]⟩

/-- The first run handles its one record and loses its last write. -/
def interruptedRun : Processor where
  site := { sampleSite with
    failingWrite := fun number _ => if number = 2 then some (.database "gone") else none }
  settings := {}
  services :=
    { sampleProcessor.services with
      observations := fun _ _ => .ok [⟨"o", "t", .null, .null, .null⟩]
      sink := fun _ items => .ok (.allSucceeded items.length) }

/-- The second run finds the selector down. -/
def unselectedRun : Processor :=
  { sampleProcessor with
    services := { sampleProcessor.services with observations := fun _ _ => .error (.selection "down") } }

def twoRuns : List Processor := [interruptedRun, unselectedRun]

theorem failed_job_processed_nothing_iff_retried :
    (∀ p ∈ twoRuns, p.site.key = ⟨retriedJob.projectId, "a"⟩) ∧
    ((∀ n, ∃ b, (afterAll (Store.empty.create retriedJob "a" ⟨0, 0, 0⟩).2 (twoRuns.take n)).find
        ⟨retriedJob.projectId, "a"⟩ = some b ∧ (b.status = .failed → b.processed = 0)) ↔
      ∀ earlier p later, twoRuns = earlier ++ p :: later →
        ¬ p.GivesUpOn (afterAll (Store.empty.create retriedJob "a" ⟨0, 0, 0⟩).2 earlier)) := by
  have ours : ∀ p ∈ twoRuns, p.site.key = ⟨retriedJob.projectId, "a"⟩ := by
    intro p member
    simp only [twoRuns, List.mem_cons, List.not_mem_nil, or_false] at member
    rcases member with rfl | rfl <;> rfl
  exact ⟨ours, failed_job_processed_nothing_iff .empty retriedJob "a" ⟨0, 0, 0⟩ ours⟩

/-- After the two runs the job has failed, and says that its one record was processed. -/
theorem given_up_job_has_processed_record :
    ∃ b, (afterAll (Store.empty.create retriedJob "a" ⟨0, 0, 0⟩).2 twoRuns).find
        ⟨retriedJob.projectId, "a"⟩ = some b ∧
      b.status = .failed ∧ b.total = 1 ∧ b.processed = 1 ∧ b.failed = 0 :=
  ⟨_, rfl, rfl, rfl, rfl, rfl⟩

end Processor

end BulkActions.Run
