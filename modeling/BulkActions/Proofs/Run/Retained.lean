import BulkActions.Proofs.Run.Chunking
import BulkActions.Proofs.Run.Lines

/-! The error lines of a chunked run. A chunk may keep the first of its lines, and of all these the run
retains the first; its log is made of them. -/

namespace BulkActions.Run

open Dataset Job

variable {κ : Type}

namespace Chunked

variable [Path.Evaluator]

/-- The error lines of a chunk: those of the records that cannot be mapped, then those of its call, if
it makes one. -/
def chunkLines (r : Chunked) (number call : Nat) (chunk : List Observation) : List String :=
  let mapped := mapChunk r.params chunk
  mapped.lines ++ if mapped.items.isEmpty then []
    else (settle number mapped.items (r.sink call mapped.items)).lines

/-- The lines that chunks may keep: of each chunk the first ones. The first of these chunks has this
number, and the next call that one. -/
def linesFrom (r : Chunked) : Nat → Nat → List (List Observation) → List String
  | _, _, [] => []
  | number, call, chunk :: rest =>
    (r.chunkLines number call chunk).take r.settings.maxErrorsPerChunk ++
      r.linesFrom (number + 1) (call + (r.callsOf chunk).length) rest

theorem linesFrom_append (r : Chunked) (number call : Nat)
    (earlier later : List (List Observation)) :
    r.linesFrom number call (earlier ++ later) = r.linesFrom number call earlier ++
      r.linesFrom (number + earlier.length) (call + (earlier.flatMap r.callsOf).length) later := by
  induction earlier generalizing number call with
  | nil => rfl
  | cons chunk rest ih =>
    rw [List.cons_append, linesFrom, linesFrom, ih, List.append_assoc, List.flatMap_cons,
      List.length_append, List.length_cons, Nat.add_assoc, Nat.add_assoc, Nat.add_comm 1]

theorem samples_handle (r : Chunked) (number : Nat) (chunk : List Observation) (s : State κ)
    (t : Tally) :
    (r.handle number chunk s t).2.samples =
      t.samples.extend (r.chunkLines number s.submissions chunk) r.settings.maxErrorsPerChunk := by
  by_cases empty : (mapChunk r.params chunk).items.isEmpty = true <;>
    simp [handle, submit, chunkLines, empty]

theorem samples_handleAll (r : Chunked) (count number : Nat) (chunks : List (List Observation))
    (s : State κ) (t : Tally) :
    (r.handleAll count number chunks s t).2.samples =
      t.samples.pushAll (r.linesFrom number s.submissions chunks) := by
  induction chunks generalizing number s t with
  | nil => rfl
  | cons chunk rest ih =>
    have numbered := ((counts_handle r number chunk s t).trans
      (counts_afterChunk r count number _ _)).numbered
    rw [List.append_nil] at numbered
    rw [handleAll_cons, ih, samples_handle, numbered, linesFrom, Samples.pushAll_append,
      Samples.extend, Samples.pushWhileKept_eq_pushAll]

/-- The lines retained after the first `count` chunks of a run. -/
def retainedAfter (r : Chunked) (records : List Observation) (s : State κ) (count : Nat) :
    List String :=
  let chunks := pieces r.chunkSize records
  let begun := (s.write r.site (.started records.length)).1.note (r.startedEntry records.length)
  (r.handleAll chunks.length 1 (chunks.take count) begun
    (.start records.length r.settings.maxRetainedErrors)).2.samples.lines

/-- The error lines a run retains. -/
def retained (r : Chunked) (records : List Observation) (s : State κ) : List String :=
  (r.work records (s.write r.site (.started records.length)).1).2.samples.lines

theorem retainedAfter_eq_take (r : Chunked) (records : List Observation) (s : State κ)
    (count : Nat) :
    r.retainedAfter records s count =
      (r.linesFrom 1 s.submissions ((pieces r.chunkSize records).take count)).take
        r.settings.maxRetainedErrors := by
  rw [retainedAfter, samples_handleAll, Samples.lines_pushAll _ _ (Nat.zero_le _),
    State.submissions_note, s.submissions_write]
  rfl

/-- Of the lines that its chunks may keep, a run retains the first. -/
theorem retained_eq_take (r : Chunked) (records : List Observation) (s : State κ) :
    r.retained records s =
      (r.linesFrom 1 s.submissions (pieces r.chunkSize records)).take
        r.settings.maxRetainedErrors := by
  rw [← List.take_length (l := pieces r.chunkSize records), ← retainedAfter_eq_take, retainedAfter,
    List.take_length]
  rfl

/-- The log of the outcome that a run concludes with is made of the lines it retains. -/
theorem logs_retained {r : Chunked} {records : List Observation} {s : State κ}
    (begins : r.Begins records s) :
    ∃ o, Concludes r.site.now (r.run records s) o ∧
      o.log = Run.summary o.failed (headline ⟨o.total, o.processed, o.failed⟩)
        ⟨r.retained records s, r.settings.maxRetainedErrors⟩ r.summary := by
  rw [run_of_begins begins]
  exact ⟨_, Tally.concludes_finish _ _ _ _ _ _, rfl⟩

end Chunked

end BulkActions.Run
