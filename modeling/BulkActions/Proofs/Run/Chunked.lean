import BulkActions.Proofs.Path.Selected
import BulkActions.Proofs.Run.Pieces
import BulkActions.Proofs.Run.Tally
import BulkActions.Run.Chunked

/-! Conservation of records in a chunked run. A step lemma for one chunk says which calls it makes
and what it counts for them; runs add these up. -/

namespace BulkActions.Run

open Dataset Job

variable {κ : Type}

/-- A record of a chunk leads to an item or to an error line. -/
theorem length_mapChunk [Path.Evaluator] (params : DatasetParams) (chunk : List Observation) :
    (mapChunk params chunk).items.length + (mapChunk params chunk).lines.length =
      chunk.length := by
  induction chunk with
  | nil => rfl
  | cons o rest ih =>
    simp only [mapChunk]
    split
    · simp only [List.length_cons]; omega
    · simp only [List.length_cons]; omega

/-- The items that count as created over calls numbered from `first` on: of a call that was
answered, no more than were submitted in it. -/
def Sink.created (sink : Sink) (first : Nat) : List SinkCall → Nat
  | [] => 0
  | call :: rest =>
    (match sink first call.items with
      | .ok report => min report.successCount call.items.length
      | .error _ => 0) + sink.created (first + 1) rest

theorem Sink.created_append (sink : Sink) (first : Nat) (earlier later : List SinkCall) :
    sink.created first (earlier ++ later) =
      sink.created first earlier + sink.created (first + earlier.length) later := by
  induction earlier generalizing first with
  | nil => simp [created]
  | cons call rest ih =>
    simp only [List.cons_append, created, ih, List.length_cons, Nat.add_assoc]
    rw [Nat.add_comm 1]

theorem processed_settle (sink : Sink) (call : SinkCall) (number first : Nat) :
    (settle number call.items (sink first call.items)).processed = sink.created first [call] := by
  simp only [Sink.created, Nat.add_zero]
  cases sink first call.items <;> rfl

theorem settle_conserves (number : Nat) (items : List Item) (answer : Except Error BulkReport) :
    (settle number items answer).processed + (settle number items answer).failed =
      items.length := by
  cases answer with
  | ok report => exact Nat.add_sub_of_le (Nat.min_le_right _ _)
  | error e => exact Nat.zero_add _

namespace Chunked

theorem chunkSize_pos (r : Chunked) : 0 < r.chunkSize := Nat.le_max_left 1 _

/-- The call a chunk leads to, unless none of its records could be mapped. -/
def callsOf [Path.Evaluator] (r : Chunked) (chunk : List Observation) : List SinkCall :=
  let items := (mapChunk r.params chunk).items
  if items.isEmpty then [] else [⟨r.site.projectId, r.params.datasetId, items⟩]

/-- Between two points of a run these calls were made and `size` records counted, as the sink
answered. -/
structure Counts (r : Chunked) (calls : List SinkCall) (size : Nat) (s s' : State κ)
    (t t' : Tally) : Prop where
  submitted : submissions s'.events = submissions s.events ++ calls
  numbered : s'.submissions = s.submissions + calls.length
  total : t'.counters.total = t.counters.total
  processed : t'.counters.processed =
    t.counters.processed + r.sink.created s.submissions calls
  settled : t'.counters.processed + t'.counters.failed =
    t.counters.processed + t.counters.failed + size

variable {r : Chunked} {s s' s'' : State κ} {t t' t'' : Tally}

theorem Counts.trans {earlier later : List SinkCall} {size more : Nat}
    (first : r.Counts earlier size s s' t t') (second : r.Counts later more s' s'' t' t'') :
    r.Counts (earlier ++ later) (size + more) s s'' t t'' where
  submitted := by rw [second.submitted, first.submitted, List.append_assoc]
  numbered := by rw [second.numbered, first.numbered, List.length_append, Nat.add_assoc]
  total := second.total.trans first.total
  processed := by
    rw [second.processed, first.processed, first.numbered, Sink.created_append, Nat.add_assoc]
  settled := by rw [second.settled, first.settled, Nat.add_assoc]

/-- Steps that neither submit nor count. -/
theorem Counts.idle (submitted : submissions s'.events = submissions s.events)
    (numbered : s'.submissions = s.submissions) : r.Counts [] 0 s s' t t where
  submitted := by rw [submitted, List.append_nil]
  numbered := numbered
  total := rfl
  processed := rfl
  settled := rfl

/-- What follows a chunk: an entry for the journal, and progress where it is due. -/
def afterChunk (r : Chunked) (count number : Nat) (s : State κ) (t : Tally) : State κ :=
  let s := s.note (r.chunkDone number count t.counters)
  if r.isDue number count then t.writeProgress r.site (r.progressLost number) s else s

theorem counts_afterChunk (r : Chunked) (count number : Nat) (s : State κ) (t : Tally) :
    r.Counts [] 0 s (r.afterChunk count number s t) t t := by
  have noted : submissions (s.note (r.chunkDone number count t.counters)).events =
      submissions s.events := by simp [submissions]
  unfold afterChunk
  split
  · exact .idle ((t.submissions_events_writeProgress _ _ _).trans noted)
      (t.submissions_writeProgress _ _ _)
  · exact .idle noted rfl

/-- What the log of a run with these counts begins with. -/
def headline (c : Counters) : String := s!"{c.failed} items failed to add to dataset"

section Runs

variable [Path.Evaluator]

/-- One chunk makes its call and counts each of its records once, whatever the sink answers. -/
theorem counts_handle (r : Chunked) (number : Nat) (chunk : List Observation) (s : State κ)
    (t : Tally) :
    r.Counts (r.callsOf chunk) chunk.length s (r.handle number chunk s t).1 t
      (r.handle number chunk s t).2 := by
  have mapped := length_mapChunk r.params chunk
  have quiet : submissions ((mapChunk r.params chunk).refused.map fun e =>
      (.noted e.entry : Event κ)) = [] := submissions_noted _ _
  by_cases empty : (mapChunk r.params chunk).items.isEmpty = true
  · have none : (mapChunk r.params chunk).items.length = 0 := by simpa using empty
    constructor
    · simp [handle, submit, empty, callsOf, quiet]
    · simp [handle, submit, empty, callsOf]
    · rfl
    · simp [handle, submit, empty, callsOf, Sink.created, Counters.addFailed,
        Counters.addProcessed]
    · simp only [handle, submit, empty, ↓reduceIte, Counters.addFailed, Counters.addProcessed]
      omega
  · have call := processed_settle r.sink
      ⟨r.site.projectId, r.params.datasetId, (mapChunk r.params chunk).items⟩ number s.submissions
    have whole := settle_conserves number (mapChunk r.params chunk).items
      (r.sink s.submissions (mapChunk r.params chunk).items)
    constructor
    · have silent : ∀ notes : List Journal.Entry,
          submissions (notes.map (.noted : Journal.Entry → Event κ)) = [] := submissions_noted id
      simp [handle, submit, empty, callsOf, quiet, silent]
    · simp [handle, submit, empty, callsOf]
    · rfl
    · simp only [handle, submit, empty, callsOf, Counters.addFailed, Counters.addProcessed,
        Bool.false_eq_true, ↓reduceIte, State.submissions_record]
      rw [call]
    · simp only [handle, submit, empty, Bool.false_eq_true, ↓reduceIte, Counters.addFailed,
        Counters.addProcessed, State.submissions_record]
      omega

theorem handleAll_cons (r : Chunked) (count number : Nat) (chunk : List Observation)
    (rest : List (List Observation)) (s : State κ) (t : Tally) :
    r.handleAll count number (chunk :: rest) s t =
      r.handleAll count (number + 1) rest
        (r.afterChunk count number (r.handle number chunk s t).1 (r.handle number chunk s t).2)
        (r.handle number chunk s t).2 := rfl

/-- The chunks make their calls in order, and every record of them is counted once. -/
theorem counts_handleAll (r : Chunked) (count number : Nat) (chunks : List (List Observation))
    (s : State κ) (t : Tally) :
    r.Counts (chunks.flatMap r.callsOf) chunks.flatten.length s
      (r.handleAll count number chunks s t).1 t (r.handleAll count number chunks s t).2 := by
  induction chunks generalizing number s t with
  | nil => exact .idle rfl rfl
  | cons chunk rest ih =>
    rw [handleAll_cons, List.flatMap_cons, List.flatten_cons, List.length_append]
    have first := (counts_handle r number chunk s t).trans (counts_afterChunk r count number _ _)
    simpa using first.trans (ih (number + 1) _ _)

theorem store_handle (r : Chunked) (number : Nat) (chunk : List Observation) (s : State κ)
    (t : Tally) : (r.handle number chunk s t).1.store = s.store := by
  by_cases empty : (mapChunk r.params chunk).items.isEmpty = true <;>
    simp [handle, submit, empty]

/-- Progress writes are accepted as long as no more records are handled than there are. -/
theorem underway_handleAll {r : Chunked} (undisturbed : r.site.Undisturbed) (count number : Nat)
    (chunks : List (List Observation)) {s : State κ} (underway : Underway r.site s.store) {t : Tally}
    (within : t.counters.processed + t.counters.failed + chunks.flatten.length ≤ t.counters.total)
    (countable : t.counters.total < Action.countLimit) :
    Underway r.site (r.handleAll count number chunks s t).1.store := by
  induction chunks generalizing number s t with
  | nil => exact underway
  | cons chunk rest ih =>
    have counts := counts_handle r number chunk s t
    have size : (chunk :: rest).flatten.length = chunk.length + rest.flatten.length := by simp
    have settled := counts.settled
    have total := counts.total
    have fit : (r.handle number chunk s t).2.counters.Fit := ⟨by omega, by omega⟩
    have kept : Underway r.site (r.afterChunk count number (r.handle number chunk s t).1
        (r.handle number chunk s t).2).store := by
      have noted : Underway r.site ((r.handle number chunk s t).1.note (r.chunkDone number count
          (r.handle number chunk s t).2.counters)).store := by
        rw [State.store_note, store_handle]
        exact underway
      unfold afterChunk
      split
      · exact (Tally.writeProgress_underway _ undisturbed noted fit).1
      · exact noted
    rw [handleAll_cons]
    exact ih (number + 1) kept (by omega) (by omega)

/-- The calls a run makes, chunk by chunk. -/
def callsFor (r : Chunked) (records : List Observation) : List SinkCall :=
  (pieces r.chunkSize records).flatMap r.callsOf

/-- A run from its accepted first write up to its last one. -/
def work (r : Chunked) (records : List Observation) (s : State κ) : State κ × Tally :=
  let chunks := pieces r.chunkSize records
  r.handleAll chunks.length 1 chunks (s.note (r.startedEntry records.length))
    (.start records.length r.settings.maxRetainedErrors)

theorem run_of_started {r : Chunked} {records : List Observation} {s begun : State κ}
    {row : Action} (started : s.write r.site (.started records.length) = (begun, .ok row)) :
    r.run records s =
      (r.work records begun).2.finish r.site (headline (r.work records begun).2.counters)
        r.summary r.done (r.work records begun).1 := by
  simp only [run, started]
  rfl

theorem run_of_refused {r : Chunked} {records : List Observation} {s refused : State κ} {e : Error}
    (written : s.write r.site (.started records.length) = (refused, .error e)) :
    r.run records s = (refused, .error e) := by
  simp only [run, written]

theorem counts_work (r : Chunked) (records : List Observation) (s : State κ) :
    r.Counts (r.callsFor records) records.length s (r.work records s).1
      (.start records.length r.settings.maxRetainedErrors) (r.work records s).2 := by
  have noted : r.Counts [] 0 s (s.note (r.startedEntry records.length))
      (.start records.length r.settings.maxRetainedErrors)
      (.start records.length r.settings.maxRetainedErrors) :=
    .idle (by simp [submissions]) rfl
  have worked := counts_handleAll r (pieces r.chunkSize records).length 1
    (pieces r.chunkSize records) (s.note (r.startedEntry records.length))
    (.start records.length r.settings.maxRetainedErrors)
  rw [flatten_pieces r.chunkSize_pos] at worked
  simpa [work, callsFor] using noted.trans worked

theorem underway_work {r : Chunked} {records : List Observation} {s : State κ}
    (undisturbed : r.site.Undisturbed) (underway : Underway r.site s.store)
    (countable : records.length < Action.countLimit) :
    Underway r.site (r.work records s).1.store := by
  have noted : Underway r.site (s.note (r.startedEntry records.length)).store := underway
  apply underway_handleAll undisturbed _ _ _ noted
  · simp only [flatten_pieces r.chunkSize_pos, Tally.start, Counters.ofTotal]
    omega
  · exact countable

/-- A run on a row that is queued or being worked on, in a store that loses no write, ends well
whatever the sink answers: each record is processed or failed, those are processed that the sink
created in the calls it answered, and the row holds the outcome. A list is no longer than a word
can count. -/
theorem run_conserves_records (r : Chunked) (records : List Observation) (store : Store)
    (ready : Ready r.site store) (countable : records.length < Action.countLimit) :
    ∃ (s : State κ) (outcome : Outcome),
      r.run records (.ofStore store) = (s, .ok outcome) ∧
      outcome.total = records.length ∧
      outcome.processed + outcome.failed = outcome.total ∧
      outcome.processed = r.sink.created 0 (submissions s.events) ∧
      outcome.status = .ofCounts outcome.processed outcome.failed ∧
      (outcome.log = none ↔ outcome.failed = 0) ∧
      (s.store.find r.site.key).map Action.outcome = some outcome := by
  obtain ⟨next, started, underway⟩ :=
    State.write_started (s := State.ofStore (κ := κ) store) ready records.length
  have quiet : submissions ((State.ofStore (κ := κ) store).accepted r.site.key next
      (.started records.length)).events = [] := rfl
  have unnumbered : ((State.ofStore (κ := κ) store).accepted r.site.key next
      (.started records.length)).submissions = 0 := rfl
  generalize (State.ofStore store).accepted r.site.key next (.started records.length) = begun
    at started underway quiet unnumbered
  have counts := counts_work r records begun
  have settled := counts.settled
  have total := counts.total
  simp only [Tally.start, Counters.ofTotal, Nat.zero_add] at settled total
  have fit : (r.work records begun).2.counters.Fit := ⟨by omega, by omega⟩
  obtain ⟨s, finished, events, stored⟩ := Tally.finish_underway ready.undisturbed
    (underway_work ready.undisturbed underway countable) fit
    (headline (r.work records begun).2.counters) r.summary r.done
  refine ⟨s, _, (run_of_started started).trans finished, total, settled.trans total.symm, ?_, rfl,
    Tally.log_outcome_eq_none_iff _ _ _, stored⟩
  have submitted : submissions s.events = r.callsFor records := by
    rw [events, submissions_append, counts.submitted, quiet]
    simp [submissions]
  rw [submitted, ← unnumbered]
  exact counts.processed.trans (Nat.zero_add _)

end Runs

/-- Chunks of two; the sink claims to have created more than it was given, and then fails. -/
def sampleRun : Chunked where
  site := sampleSite
  params := ⟨"d", ⟨.custom (some (.root (some ⟨.output, "$.answer"⟩))), .full, .null⟩⟩
  settings := { chunkSize := 2, progressInterval := 0, maxErrorsPerChunk := 1 }
  summary := {}
  sink number _ := if number = 0 then .ok ⟨true, 5, 7, [⟨9, "odd"⟩]⟩ else .error (.sink "down")

/-- The second of these has no answer to map. -/
def sampleRecords : List Observation :=
  [⟨"o1", "t1", .null, .obj [("answer", .int 42)], .null⟩, ⟨"o2", "t2", .null, .null, .null⟩,
    ⟨"o3", "t3", .null, .obj [("answer", .null)], .null⟩]

theorem run_conserves_records_unreliable_sink :
    Ready sampleRun.site sampleStore ∧ sampleRecords.length < Action.countLimit ∧
    ∃ (s : State Unit) (outcome : Outcome),
      sampleRun.run sampleRecords (.ofStore sampleStore) = (s, .ok outcome) ∧
      outcome.total = sampleRecords.length ∧
      outcome.processed + outcome.failed = outcome.total ∧
      outcome.processed = sampleRun.sink.created 0 (submissions s.events) ∧
      outcome.status = .ofCounts outcome.processed outcome.failed ∧
      (outcome.log = none ↔ outcome.failed = 0) ∧
      (s.store.find sampleRun.site.key).map Action.outcome = some outcome :=
  ⟨ready_sample, by decide,
    run_conserves_records sampleRun sampleRecords sampleStore ready_sample (by decide)⟩

end Chunked

end BulkActions.Run
