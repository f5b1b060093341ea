import BulkActions.Proofs.Run.Chunked
import BulkActions.Proofs.Run.Streamed

/-! Two runs over the same records at two places. What a run does between its first and its last
write hangs on the answers of the services alone: a relation between two states that is kept by
whatever happens alike in both runs, and by progress that both write, is kept by the whole work, and
both come to the same tally. -/

namespace BulkActions.Run

open Dataset Job

variable {κ : Type}

/-- Counts that may be written as progress: no more records than there are, and no more of these than
a limit. -/
structure Counters.Within (c : Counters) (limit : Nat) : Prop where
  counted : c.processed + c.failed ≤ c.total
  total : c.total ≤ limit

/-- Entries for the journal are no writes. -/
theorem writes_noted {α : Type} (entry : α → Journal.Entry) (xs : List α) :
    writes (xs.map fun x => (.noted (entry x) : Event κ)) = [] := by
  simp [writes]

theorem writes_of_tasks {events : List (Event κ)} (tasks : ∀ e ∈ events, e.OfTask) :
    writes events = [] := by
  apply List.filterMap_eq_nil_iff.mpr
  intro e member
  have task := tasks e member
  cases e <;> simp_all [Event.OfTask]

/-- Two sites of the same job, and a relation between the states of two runs at them that is kept by
whatever happens in both, and by progress within a limit that both write. -/
structure Lockstep (site other : Site) (limit : Nat) (together : State κ → State κ → Prop) :
    Prop where
  projectId : other.projectId = site.projectId
  actionId : other.actionId = site.actionId
  numbered : ∀ {s t}, together s t → s.submissions = t.submissions
  submitted : ∀ {s t}, together s t → together { s with submissions := s.submissions + 1 }
    { t with submissions := t.submissions + 1 }
  record : ∀ {s t events}, writes events = [] → together s t →
    together (s.record events) (t.record events)
  progress : ∀ {s t} (tally : Tally) (lost : Error → Journal.Entry), tally.counters.Within limit →
    together s t → together (tally.writeProgress site lost s) (tally.writeProgress other lost t)

/-- Two runs have come to states that are together, and to the same answer. -/
def Together {α : Type} (together : State κ → State κ → Prop) (x y : State κ × α) : Prop :=
  together x.1 y.1 ∧ x.2 = y.2

theorem Lockstep.note {site other : Site} {limit : Nat} {together : State κ → State κ → Prop}
    (lockstep : Lockstep site other limit together) {s t : State κ} (start : together s t)
    (entry : Journal.Entry) : together (s.note entry) (t.note entry) :=
  lockstep.record rfl start

/-- A property of the states of one run that is kept by whatever happens in it, and by progress
within a limit. -/
structure Steady (site : Site) (limit : Nat) (motive : State κ → Prop) : Prop where
  submitted : ∀ {s}, motive s → motive { s with submissions := s.submissions + 1 }
  record : ∀ {s events}, writes events = [] → motive s → motive (s.record events)
  progress : ∀ {s} (tally : Tally) (lost : Error → Journal.Entry), tally.counters.Within limit →
    motive s → motive (tally.writeProgress site lost s)

/-- It holds of a run that is in lockstep with itself. -/
theorem Steady.lockstep {site : Site} {limit : Nat} {motive : State κ → Prop}
    (steady : Steady site limit motive) :
    Lockstep site site limit fun s t => s = t ∧ motive s where
  projectId := rfl
  actionId := rfl
  numbered together := congrArg State.submissions together.1
  submitted := by
    rintro s _ ⟨rfl, holds⟩
    exact ⟨rfl, steady.submitted holds⟩
  record := by
    rintro s _ events quiet ⟨rfl, holds⟩
    exact ⟨rfl, steady.record quiet holds⟩
  progress := by
    rintro s _ tally lost within ⟨rfl, holds⟩
    exact ⟨rfl, steady.progress tally lost within holds⟩

namespace Chunked

/-- The same run at another place. -/
def moved (r : Chunked) (other : Site) : Chunked := { r with site := other }

variable {r : Chunked} {other : Site} {limit : Nat} {together : State κ → State κ → Prop}
  (lockstep : Lockstep r.site other limit together) {s t : State κ}

include lockstep

theorem together_submit (start : together s t) (number : Nat) (items : List Item) :
    Together together (r.submit number items s) ((r.moved other).submit number items t) := by
  by_cases empty : items.isEmpty = true
  · simp only [submit, empty, ↓reduceIte]
    exact ⟨start, rfl⟩
  · have same : (r.moved other).site.projectId = r.site.projectId := lockstep.projectId
    have next := lockstep.submitted start
    rw [← lockstep.numbered start] at next
    simp only [submit, empty, Bool.false_eq_true, ↓reduceIte, same, ← lockstep.numbered start]
    exact ⟨lockstep.record (writes_noted id _) next, rfl⟩

/-- The sink answers by the number of the call, which is the same in both runs. -/
theorem together_handle [Path.Evaluator] (start : together s t) (number : Nat)
    (chunk : List Observation) (tally : Tally) :
    Together together (r.handle number chunk s tally)
      ((r.moved other).handle number chunk t tally) := by
  have noted := lockstep.record
    (writes_noted Mapping.UnsafeKey.entry (mapChunk r.params chunk).refused) start
  obtain ⟨submitted, settled⟩ := together_submit lockstep noted number (mapChunk r.params chunk).items
  refine ⟨submitted, ?_⟩
  simp only [handle, settled]
  rfl

theorem together_afterChunk (start : together s t) (count number : Nat) {tally : Tally}
    (within : tally.counters.Within limit) :
    together (r.afterChunk count number s tally)
      ((r.moved other).afterChunk count number t tally) := by
  have done : (r.moved other).chunkDone number count = r.chunkDone number count := by
    funext c
    simp only [chunkDone, moved, lockstep.actionId]
  have lost : (r.moved other).progressLost number = r.progressLost number := by
    funext e
    simp only [progressLost, moved, lockstep.actionId]
  have due : (r.moved other).isDue number count = r.isDue number count := rfl
  have noted := lockstep.note start (r.chunkDone number count tally.counters)
  simp only [afterChunk, done, lost, due]
  split
  · exact lockstep.progress tally _ within noted
  · exact noted

theorem together_handleAll [Path.Evaluator] (start : together s t) (count number : Nat)
    (chunks : List (List Observation)) {tally : Tally}
    (counted : tally.counters.processed + tally.counters.failed + chunks.flatten.length ≤
      tally.counters.total) (total : tally.counters.total ≤ limit) :
    Together together (r.handleAll count number chunks s tally)
      ((r.moved other).handleAll count number chunks t tally) := by
  induction chunks generalizing number s t tally with
  | nil => exact ⟨start, rfl⟩
  | cons chunk rest ih =>
    obtain ⟨handled, same⟩ := together_handle lockstep start number chunk tally
    have counts := counts_handle r number chunk s tally
    have settled := counts.settled
    have known := counts.total
    have size : (chunk :: rest).flatten.length = chunk.length + rest.flatten.length := by simp
    have within : (r.handle number chunk s tally).2.counters.Within limit :=
      ⟨by omega, by omega⟩
    rw [handleAll_cons, handleAll_cons, ← same]
    exact ih (together_afterChunk lockstep handled count number within) (number + 1)
      (by omega) (by omega)

/-- Both runs do their work together, from states in which they have begun. -/
theorem together_work [Path.Evaluator] (start : together s t) (records : List Observation)
    (bounded : records.length ≤ limit) :
    Together together (r.work records s) ((r.moved other).work records t) := by
  have entry : (r.moved other).startedEntry records.length = r.startedEntry records.length := by
    simp only [startedEntry, moved, lockstep.actionId, lockstep.projectId]
  simp only [work, entry]
  refine together_handleAll lockstep (lockstep.note start _) _ _ _ ?_ bounded
  simp [flatten_pieces (chunkSize_pos _), Tally.start, Counters.ofTotal]

end Chunked

namespace Streamed

variable {ρ : Type}

/-- The same run at another place. -/
def moved (r : Streamed ρ κ) (other : Site) : Streamed ρ κ := { r with site := other }

variable {r : Streamed ρ κ} {other : Site} {limit : Nat} {together : State κ → State κ → Prop}
  (lockstep : Lockstep r.site other limit together) {s t : State κ}

include lockstep

theorem together_handle (start : together s t) (batch : List (StreamItem ρ)) (tally : Tally) :
    Together together (r.handle batch s tally) ((r.moved other).handle batch t tally) :=
  have quiet := writes_of_tasks (Pool.ofTask_rounds r.concurrency _ 0 []
    (tasksOf r.operation tally.counters.total batch))
  ⟨lockstep.record quiet start, rfl⟩

theorem together_handleAll (start : together s t) (number : Nat)
    (batches : List (List (StreamItem ρ))) {tally : Tally}
    (counted : tally.counters.processed + tally.counters.failed ≤ tally.counters.total)
    (total : tally.counters.total + batches.flatten.length ≤ limit) :
    Together together (r.handleAll number batches s tally)
      ((r.moved other).handleAll number batches t tally) := by
  induction batches generalizing number s t tally with
  | nil => exact ⟨start, rfl⟩
  | cons batch rest ih =>
    have done : (r.moved other).batchDone number = r.batchDone number := by
      funext c
      simp only [batchDone, moved, lockstep.actionId]
    have lost : (r.moved other).progressLost number = r.progressLost number := by
      funext e
      simp only [progressLost, moved, lockstep.actionId]
    obtain ⟨handled, same⟩ := together_handle lockstep start batch tally
    have whole := length_eq_ending r tally.counters.total batch
    have known := total_handle r batch s tally
    have size : (batch :: rest).flatten.length = batch.length + rest.flatten.length := by simp
    have kept : (r.handle batch s tally).2.counters.processed +
        (r.handle batch s tally).2.counters.failed ≤ (r.handle batch s tally).2.counters.total := by
      rw [counters_handle]
      simp only [Counters.plus, count]
      omega
    rw [handleAll_cons, handleAll_cons, ← same, done, lost]
    exact ih (lockstep.progress _ _ ⟨kept, by omega⟩ (lockstep.note handled _)) (number + 1) kept
      (by omega)

/-- Both runs do their work together, from states in which they have begun. -/
theorem together_work (start : together s t) (stream : List (StreamItem ρ))
    (bounded : stream.length ≤ limit) :
    Together together (r.work stream s) ((r.moved other).work stream t) := by
  have entry : (r.moved other).startedEntry = r.startedEntry := by
    simp only [startedEntry, moved, lockstep.actionId, lockstep.projectId]
  simp only [work, entry]
  refine together_handleAll lockstep (lockstep.note start _) _ _ (Nat.le_refl 0) ?_
  simpa [flatten_pieces (batchSize_pos _), Tally.start, Counters.ofTotal] using bounded

end Streamed

end BulkActions.Run
