import BulkActions.Proofs.Run.Pieces
import BulkActions.Proofs.Run.Pool
import BulkActions.Proofs.Run.Tally
import BulkActions.Run.Streamed

/-! Conservation of items in a streamed run. What a batch adds to the counts depends on its items
alone and not on the order in which the work on them ends, so the counts after a number of batches
are those of the items taken so far. -/

namespace BulkActions.Run

open Job

variable {ρ κ : Type}

/-- The errors in the place of records. -/
def streamErrors (items : List (StreamItem ρ)) : Nat :=
  items.countP fun
    | .error _ => true
    | .ok _ => false

@[simp] theorem streamErrors_cons_error (e : Error) (rest : List (StreamItem ρ)) :
    streamErrors (.error e :: rest) = streamErrors rest + 1 := by
  simp [streamErrors]

@[simp] theorem streamErrors_cons_ok (record : ρ) (rest : List (StreamItem ρ)) :
    streamErrors (.ok record :: rest) = streamErrors rest := by
  simp [streamErrors]

theorem length_streamErrorLines (first : Nat) (items : List (StreamItem ρ)) :
    (streamErrorLines first items).length = streamErrors items := by
  induction items generalizing first with
  | nil => rfl
  | cons item rest ih => cases item <;> simp [streamErrorLines, ih]

theorem le_of_mem_tasksOf (operation : Operation ρ κ) {first index : Nat}
    {items : List (StreamItem ρ)} (member : index ∈ (tasksOf operation first items).map Prod.fst) :
    first ≤ index := by
  induction items generalizing first with
  | nil => simp [tasksOf] at member
  | cons item rest ih =>
    cases item with
    | error e => exact Nat.le_of_succ_le (ih member)
    | ok record =>
      rcases List.mem_cons.mp member with own | later
      · exact Nat.le_of_eq own.symm
      · exact Nat.le_of_succ_le (ih later)

theorem nodup_tasksOf (operation : Operation ρ κ) (first : Nat) (items : List (StreamItem ρ)) :
    ((tasksOf operation first items).map Prod.fst).Nodup := by
  induction items generalizing first with
  | nil => exact .nil
  | cons item rest ih =>
    cases item with
    | error e => exact ih (first + 1)
    | ok record =>
      refine List.nodup_cons.mpr ⟨?_, ih (first + 1)⟩
      intro member
      exact absurd (le_of_mem_tasksOf operation member) (Nat.not_succ_le_self first)

/-- Counting completed tasks: the order does not matter. -/
theorem Tally.counters_complete (t : Tally) (completed : List (Nat × Option Error)) :
    (completed.foldl Tally.complete t).counters =
      ⟨t.counters.total, t.counters.processed + completed.countP (·.2.isNone),
        t.counters.failed + completed.countP (·.2.isSome)⟩ := by
  induction completed generalizing t with
  | nil => rfl
  | cons result rest ih =>
    obtain ⟨index, failure⟩ := result
    rw [List.foldl_cons, ih]
    cases failure with
    | none =>
      simp [Tally.complete, Counters.addProcessed, Nat.add_assoc, Nat.add_comm 1]
    | some e => simp [Tally.complete, Counters.addFailed, Nat.add_assoc, Nat.add_comm 1]

namespace Streamed

variable {r : Streamed ρ κ}

theorem batchSize_pos (r : Streamed ρ κ) : 0 < r.batchSize := Nat.le_max_left 1 _

theorem concurrency_pos (r : Streamed ρ κ) : 0 < r.concurrency := Nat.le_max_left 1 _

/-- The records among items numbered from `first` on whose operation ends in one way; errors of the
stream are no records. -/
def ending (r : Streamed ρ κ) (way : Option Error → Bool) (first : Nat)
    (items : List (StreamItem ρ)) : Nat :=
  (items.zipIdx first).countP fun
    | (.ok record, index) => way (r.operation.task index record).failure
    | (.error _, _) => false

/-- The records whose operation succeeds. -/
def successes (r : Streamed ρ κ) : Nat → List (StreamItem ρ) → Nat := r.ending Option.isNone

/-- The records whose operation fails. -/
def failures (r : Streamed ρ κ) : Nat → List (StreamItem ρ) → Nat := r.ending Option.isSome

@[simp] theorem ending_cons_error (r : Streamed ρ κ) (way : Option Error → Bool) (first : Nat)
    (e : Error) (rest : List (StreamItem ρ)) :
    r.ending way first (.error e :: rest) = r.ending way (first + 1) rest := by
  simp [ending]

@[simp] theorem ending_cons_ok (r : Streamed ρ κ) (way : Option Error → Bool) (first : Nat)
    (record : ρ) (rest : List (StreamItem ρ)) :
    r.ending way first (.ok record :: rest) = r.ending way (first + 1) rest +
      if way (r.operation.task first record).failure then 1 else 0 := by
  simp [ending, List.countP_cons]

theorem ending_append (r : Streamed ρ κ) (way : Option Error → Bool) (first : Nat)
    (earlier later : List (StreamItem ρ)) :
    r.ending way first (earlier ++ later) =
      r.ending way first earlier + r.ending way (first + earlier.length) later := by
  simp [ending, List.zipIdx_append]

theorem countP_tasksOf (r : Streamed ρ κ) (way : Option Error → Bool) (first : Nat)
    (items : List (StreamItem ρ)) :
    ((tasksOf r.operation first items).map Pool.Waiting.result).countP (fun result => way result.2) =
      r.ending way first items := by
  induction items generalizing first with
  | nil => rfl
  | cons item rest ih =>
    cases item with
    | error e => simpa [tasksOf] using ih (first + 1)
    | ok record => simp [tasksOf, List.countP_cons, ih, Pool.Waiting.result]

/-- Each item is an error of the stream, or a record whose operation succeeds or fails. -/
theorem length_eq_ending (r : Streamed ρ κ) (first : Nat) (items : List (StreamItem ρ)) :
    r.successes first items + (streamErrors items + r.failures first items) = items.length := by
  induction items generalizing first with
  | nil => rfl
  | cons item rest ih =>
    have tail := ih (first + 1)
    simp only [successes, failures] at tail ⊢
    cases item with
    | error e =>
      simp only [streamErrors_cons_error, ending_cons_error, List.length_cons]
      omega
    | ok record =>
      simp only [streamErrors_cons_ok, ending_cons_ok, List.length_cons]
      cases (r.operation.task first record).failure <;>
        simp only [Option.isNone_none, Option.isNone_some, Option.isSome_none, Option.isSome_some,
          Bool.false_eq_true, ↓reduceIte] <;>
        omega

/-- The counts of items taken from a stream, numbered from `first` on. -/
def count (r : Streamed ρ κ) (first : Nat) (items : List (StreamItem ρ)) : Counters :=
  ⟨items.length, r.successes first items, streamErrors items + r.failures first items⟩

end Streamed

def Counters.plus (c d : Counters) : Counters :=
  ⟨c.total + d.total, c.processed + d.processed, c.failed + d.failed⟩

theorem Counters.plus_assoc (a b c : Counters) : (a.plus b).plus c = a.plus (b.plus c) := by
  simp [plus, Nat.add_assoc]

namespace Streamed

variable {r : Streamed ρ κ}

theorem count_append (r : Streamed ρ κ) (first : Nat) (earlier later : List (StreamItem ρ)) :
    r.count first (earlier ++ later) =
      (r.count first earlier).plus (r.count (first + earlier.length) later) := by
  simp only [count, Counters.plus, successes, failures, ending_append, streamErrors,
    List.length_append, List.countP_append, Counters.mk.injEq, true_and]
  omega

/-- One batch adds the counts of its items, in whatever order the work on them ends. -/
theorem counters_handle (r : Streamed ρ κ) (batch : List (StreamItem ρ)) (s : State κ) (t : Tally) :
    (r.handle batch s t).2.counters = t.counters.plus (r.count t.counters.total batch) := by
  have ended := Pool.completions_run r.concurrency_pos
    (nodup_tasksOf r.operation t.counters.total batch)
  simp only [handle, Tally.counters_complete, ended.countP_eq, countP_tasksOf,
    length_streamErrorLines]
  simp only [Counters.addFailed, Counters.addTotal, count, Counters.plus, successes, failures,
    streamErrors, Counters.mk.injEq, true_and]
  omega

theorem total_handle (r : Streamed ρ κ) (batch : List (StreamItem ρ)) (s : State κ) (t : Tally) :
    (r.handle batch s t).2.counters.total = t.counters.total + batch.length := by
  rw [counters_handle]
  rfl

theorem milestones_handle (r : Streamed ρ κ) (batch : List (StreamItem ρ)) (s : State κ)
    (t : Tally) :
    milestones (r.handle batch s t).1.events =
      milestones s.events ++ [.pulled batch.length] := by
  have quiet := milestones_eq_nil (Pool.ofTask_rounds (κ := κ) r.concurrency
    (Pool.total (fun task => task.2.calls.length) (tasksOf r.operation t.counters.total batch) + 1) 0
    [] (tasksOf r.operation t.counters.total batch))
  simp only [handle, State.events_record, Pool.run, milestones_append, milestones_pulled, quiet]

/-- The counts after each of the batches, from counts on. -/
def progress (r : Streamed ρ κ) : Counters → List (List (StreamItem ρ)) → List Counters
  | _, [] => []
  | c, batch :: rest =>
    c.plus (r.count c.total batch) :: r.progress (c.plus (r.count c.total batch)) rest

/-- What shows of a batch once its counts are written. -/
def batchMilestones (batch : List (StreamItem ρ)) (c : Counters) : List (Event κ) :=
  [.pulled batch.length, .wrote c.progress none]

theorem handleAll_cons (r : Streamed ρ κ) (number : Nat) (batch : List (StreamItem ρ))
    (rest : List (List (StreamItem ρ))) (s : State κ) (t : Tally) :
    r.handleAll number (batch :: rest) s t =
      r.handleAll (number + 1) rest
        ((r.handle batch s t).2.writeProgress r.site (r.progressLost number)
          ((r.handle batch s t).1.note (r.batchDone number (r.handle batch s t).2.counters)))
        (r.handle batch s t).2 := rfl

theorem counters_handleAll (r : Streamed ρ κ) (number : Nat)
    (batches : List (List (StreamItem ρ))) (s : State κ) (t : Tally) :
    (r.handleAll number batches s t).2.counters =
      t.counters.plus (r.count t.counters.total batches.flatten) := by
  induction batches generalizing number s t with
  | nil => rfl
  | cons batch rest ih =>
    rw [handleAll_cons, ih, counters_handle, List.flatten_cons, count_append, Counters.plus_assoc]
    rfl

theorem length_progress (r : Streamed ρ κ) (c : Counters) (batches : List (List (StreamItem ρ))) :
    (r.progress c batches).length = batches.length := by
  induction batches generalizing c with
  | nil => rfl
  | cons batch rest ih => simp [progress, ih]

/-- The counts after a batch are those of all items taken up to it. -/
theorem progress_eq_count {c next : Counters} {batches : List (List (StreamItem ρ))} {k : Nat}
    (written : (r.progress c batches)[k]? = some next) :
    next = c.plus (r.count c.total (batches.take (k + 1)).flatten) := by
  induction batches generalizing c k with
  | nil => simp [progress] at written
  | cons batch rest ih =>
    cases k with
    | zero => simpa [progress, eq_comm] using written
    | succ k =>
      rw [progress, List.getElem?_cons_succ] at written
      rw [ih written, Counters.plus_assoc, List.take_succ_cons, List.flatten_cons, count_append]
      rfl

/-- Each batch is taken and then its counts are written, while no more items are counted than a
word can hold. -/
theorem milestones_handleAll (undisturbed : r.site.Undisturbed) (number : Nat)
    (batches : List (List (StreamItem ρ))) {s : State κ} (underway : Underway r.site s.store)
    {t : Tally} (within : t.counters.processed + t.counters.failed ≤ t.counters.total)
    (countable : t.counters.total + batches.flatten.length < Action.countLimit) :
    Underway r.site (r.handleAll number batches s t).1.store ∧
      milestones (r.handleAll number batches s t).1.events =
        milestones s.events ++
          (List.zipWith batchMilestones batches (r.progress t.counters batches)).flatten := by
  induction batches generalizing number s t with
  | nil => exact ⟨underway, by simp [handleAll, progress]⟩
  | cons batch rest ih =>
    have counted := counters_handle r batch s t
    have whole := length_eq_ending r t.counters.total batch
    have fit : (r.handle batch s t).2.counters.Fit := by
      rw [counted]
      simp only [List.flatten_cons, List.length_append] at countable
      constructor
      · simp only [Counters.plus, count]; omega
      · simp only [Counters.plus, count]; omega
    have noted : Underway r.site ((r.handle batch s t).1.note
        (r.batchDone number (r.handle batch s t).2.counters)).store := underway
    obtain ⟨kept, written⟩ :=
      Tally.writeProgress_underway (r.progressLost number) undisturbed noted fit
    rw [handleAll_cons]
    obtain ⟨done, shown⟩ := ih (number + 1) kept fit.within (by
      rw [counted]
      simpa [Counters.plus, count, Nat.add_assoc] using countable)
    refine ⟨done, ?_⟩
    rw [shown, written, milestones_append, State.events_note, milestones_append, milestones_handle,
      counted]
    simp [progress, batchMilestones, milestones]

/-- A run from its accepted first write up to its last one. -/
def work (r : Streamed ρ κ) (stream : List (StreamItem ρ)) (s : State κ) : State κ × Tally :=
  r.handleAll 1 (pieces r.batchSize stream) (s.note r.startedEntry)
    (.start 0 r.settings.maxRetainedErrors)

/-- What the log of a run with these counts begins with. -/
def headline (r : Streamed ρ κ) (c : Counters) : String :=
  s!"{c.failed} of {c.total} records failed ({r.operation.describe})"

theorem run_of_started {stream : List (StreamItem ρ)} {s begun : State κ} {row : Action}
    (started : s.write r.site (.started 0) = (begun, .ok row)) :
    r.run stream s =
      (r.work stream begun).2.finish r.site (r.headline (r.work stream begun).2.counters)
        r.summary r.done (r.work stream begun).1 := by
  simp only [run, started]
  rfl

theorem run_of_refused {stream : List (StreamItem ρ)} {s refused : State κ} {e : Error}
    (written : s.write r.site (.started 0) = (refused, .error e)) :
    r.run stream s = (refused, .error e) := by
  simp only [run, written]

theorem counters_work (r : Streamed ρ κ) (stream : List (StreamItem ρ)) (s : State κ) :
    (r.work stream s).2.counters = r.count 0 stream := by
  simp [work, counters_handleAll, flatten_pieces r.batchSize_pos, Tally.start, Counters.ofTotal,
    Counters.plus]

theorem milestones_work {r : Streamed ρ κ} {stream : List (StreamItem ρ)} {s : State κ}
    (undisturbed : r.site.Undisturbed) (underway : Underway r.site s.store)
    (countable : stream.length < Action.countLimit) :
    Underway r.site (r.work stream s).1.store ∧
      milestones (r.work stream s).1.events = milestones s.events ++
        (List.zipWith batchMilestones (pieces r.batchSize stream)
          (r.progress (.ofTotal 0) (pieces r.batchSize stream))).flatten := by
  have noted : Underway r.site (s.note r.startedEntry).store := underway
  have quiet : milestones (s.note r.startedEntry).events = milestones s.events := by
    simp [milestones]
  have worked := milestones_handleAll undisturbed 1 (pieces r.batchSize stream) noted
    (t := .start 0 r.settings.maxRetainedErrors) (by simp [Tally.start, Counters.ofTotal])
    (by simpa [Tally.start, Counters.ofTotal, flatten_pieces r.batchSize_pos] using countable)
  rw [quiet] at worked
  exact worked

/-- A run on a row that is queued or being worked on, in a store that loses no write, ends well
whatever the order in which the work on the records of a batch ends. Each item is counted once: the
records whose operation succeeds, and the errors of the stream with the records whose operation
fails. The counts are written once after each batch and cover the items taken so far, and the row
holds the outcome. No more items come than a word can count. -/
theorem run_conserves_items (r : Streamed ρ κ) (stream : List (StreamItem ρ)) (store : Store)
    (ready : Ready r.site store) (countable : stream.length < Action.countLimit) :
    ∃ (s : State κ) (outcome : Outcome) (progress : List Counters),
      r.run stream (.ofStore store) = (s, .ok outcome) ∧
      outcome.total = stream.length ∧
      outcome.processed = r.successes 0 stream ∧
      outcome.failed = streamErrors stream + r.failures 0 stream ∧
      progress.length = (stream.length + r.batchSize - 1) / r.batchSize ∧
      (∀ k c, progress[k]? = some c →
        c.total = min ((k + 1) * r.batchSize) stream.length ∧ c.processed + c.failed = c.total) ∧
      milestones s.events = .wrote (.started 0) none ::
        (List.zipWith batchMilestones (pieces r.batchSize stream) progress).flatten ++
          [.wrote (Tally.finalWrite r.site.now outcome) none] ∧
      (s.store.find r.site.key).map Action.outcome = some outcome := by
  obtain ⟨row, started, underway⟩ :=
    State.write_started (s := State.ofStore (κ := κ) store) ready 0
  have shown : milestones ((State.ofStore (κ := κ) store).accepted r.site.key row
      (.started 0)).events = [.wrote (.started 0) none] := rfl
  generalize (State.ofStore store).accepted r.site.key row (.started 0) = begun
    at started underway shown
  obtain ⟨worked, batches⟩ := milestones_work ready.undisturbed underway countable
  have counted := counters_work r stream begun
  have whole := length_eq_ending r 0 stream
  have fit : (r.work stream begun).2.counters.Fit := by
    rw [counted]
    exact ⟨Nat.le_of_eq whole, countable⟩
  obtain ⟨s, finished, events, stored⟩ := Tally.finish_underway ready.undisturbed worked fit
    (r.headline (r.work stream begun).2.counters) r.summary r.done
  refine ⟨s, _, r.progress (.ofTotal 0) (pieces r.batchSize stream),
    (run_of_started started).trans finished, ?_, ?_, ?_, ?_, ?_, ?_, stored⟩
  · exact congrArg Counters.total counted
  · exact congrArg Counters.processed counted
  · exact congrArg Counters.failed counted
  · rw [length_progress, length_pieces r.batchSize_pos]
  · intro k c written
    rw [progress_eq_count written, flatten_take_pieces r.batchSize_pos]
    have taken := length_eq_ending r 0 (stream.take ((k + 1) * r.batchSize))
    have size := List.length_take (i := (k + 1) * r.batchSize) (l := stream)
    simp only [Counters.ofTotal, Counters.plus, count, Nat.zero_add]
    omega
  · rw [events, milestones_append, batches, shown]
    simp [milestones]

/-- Two records of a batch of two are under way together, the later one may end first, and the
record zero fails. -/
def sampleRun : Streamed Nat String where
  site := sampleSite
  operation := ⟨"wait", fun _ record =>
    ⟨[("begin", record), ("end", 0)], if record = 0 then some (.sink "zero") else none, []⟩⟩
  settings := { batchSize := 2, maxConcurrency := 2 }
  summary := {}

def sampleStream : List (StreamItem Nat) :=
  [.ok 3, .ok 1, .error (.selection "gone"), .ok 0, .ok 2]

theorem run_conserves_items_broken_stream :
    Ready sampleRun.site sampleStore ∧ sampleStream.length < Action.countLimit ∧
    ∃ (s : State String) (outcome : Outcome) (progress : List Counters),
      sampleRun.run sampleStream (.ofStore sampleStore) = (s, .ok outcome) ∧
      outcome.total = sampleStream.length ∧
      outcome.processed = sampleRun.successes 0 sampleStream ∧
      outcome.failed = streamErrors sampleStream + sampleRun.failures 0 sampleStream ∧
      progress.length = (sampleStream.length + sampleRun.batchSize - 1) / sampleRun.batchSize ∧
      (∀ k c, progress[k]? = some c →
        c.total = min ((k + 1) * sampleRun.batchSize) sampleStream.length ∧
          c.processed + c.failed = c.total) ∧
      milestones s.events = .wrote (.started 0) none ::
        (List.zipWith batchMilestones (pieces sampleRun.batchSize sampleStream) progress).flatten ++
          [.wrote (Tally.finalWrite sampleRun.site.now outcome) none] ∧
      (s.store.find sampleRun.site.key).map Action.outcome = some outcome :=
  ⟨ready_sample, by decide,
    run_conserves_items sampleRun sampleStream sampleStore ready_sample (by decide)⟩

end Streamed

end BulkActions.Run
