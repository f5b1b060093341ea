import BulkActions.Proofs.Mapping.Crash
import BulkActions.Proofs.Run.Remains
import BulkActions.Proofs.Run.Submissions

/-! Runs that a crash of the path evaluator may take down. Where no record crashes, such a run is the
run; where one does, the chunks before it are done, no outcome is reported, and the job is left to be
worked on again. What completes the evaluator has no part in it. -/

namespace BulkActions.Run

open Dataset Job

variable {κ : Type}

namespace Chunked

variable {r : Chunked} {records : List Observation}

theorem quiet_of_mem_pieces (quiet : ∀ o ∈ records, r.crashes o = false) :
    ∀ chunk ∈ pieces r.chunkSize records, ∀ o ∈ chunk, r.crashes o = false := by
  intro chunk piece o member
  refine quiet o ?_
  rw [← flatten_pieces r.chunkSize_pos records]
  exact List.mem_flatten.mpr ⟨chunk, piece, member⟩

section Completed

variable {evaluator other : Path.Evaluator} (completes : evaluator.Completes)
  (also : other.Completes)

include completes also

theorem mapChunk_eq_of_quiet {chunk : List Observation}
    (quiet : ∀ o ∈ chunk, r.crashes o = false) :
    @mapChunk evaluator r.params chunk = @mapChunk other r.params chunk := by
  induction chunk with
  | nil => rfl
  | cons o rest ih =>
    obtain ⟨first, later⟩ := List.forall_mem_cons.mp quiet
    simp only [mapChunk, Mapping.apply_eq_of_quiet completes also first, ih later]

theorem handleAll_eq_of_quiet (count number : Nat) {chunks : List (List Observation)}
    (quiet : ∀ chunk ∈ chunks, ∀ o ∈ chunk, r.crashes o = false) (s : State κ) (t : Tally) :
    @handleAll evaluator κ r count number chunks s t =
      @handleAll other κ r count number chunks s t := by
  induction chunks generalizing number s t with
  | nil => rfl
  | cons chunk rest ih =>
    obtain ⟨first, later⟩ := List.forall_mem_cons.mp quiet
    simp only [handleAll, handle, mapChunk_eq_of_quiet completes also first, ih _ later]

theorem run_eq_of_quiet (quiet : ∀ o ∈ records, r.crashes o = false) (s : State κ) :
    @run evaluator κ r records s = @run other κ r records s := by
  simp only [run, handleAll_eq_of_quiet completes also _ _ (quiet_of_mem_pieces quiet)]

theorem refusedUntilCrash_eq (r : Chunked) (chunk : List Observation) :
    @refusedUntilCrash evaluator r chunk = @refusedUntilCrash other r chunk := by
  have before : ∀ o ∈ chunk.takeWhile fun o => !r.crashes o, r.crashes o = false := by
    intro o member
    simpa using List.all_eq_true.mp List.all_takeWhile o member
  have within (o : Observation) :=
    Mapping.apply_eq_of_quiet completes also (r.params.mapping.crashes_untilCrash o.record)
  simp only [refusedUntilCrash, mapChunk_eq_of_quiet completes also before, within]

theorem broken_eq (r : Chunked) (records : List Observation) (s : State κ) :
    @broken evaluator κ r records s = @broken other κ r records s := by
  have whole : ∀ chunk ∈ (pieces r.chunkSize records).takeWhile fun chunk => !chunk.any r.crashes,
      ∀ o ∈ chunk, r.crashes o = false := by
    intro chunk member
    simpa using List.all_eq_true.mp List.all_takeWhile chunk member
  simp only [broken, handleAll_eq_of_quiet completes also _ _ whole,
    refusedUntilCrash_eq completes also r]

/-- Whatever completes the path evaluator at hand, a run comes to the same. -/
theorem carryOut_eq (r : Chunked) (records : List Observation) (s : State κ) :
    @carryOut evaluator κ r records s = @carryOut other κ r records s := by
  unfold carryOut
  split
  · rw [broken_eq completes also]
    split
    · rfl
    · rename_i none
      have quiet : ∀ o ∈ records, r.crashes o = false := by simpa using none
      rw [run_eq_of_quiet completes also quiet]
  · rfl

end Completed

section Outcomes

variable [Path.Evaluator] {s : State κ}

/-- A run answers nothing exactly where it begins and a record of it crashes. -/
theorem carryOut_eq_none_iff :
    (r.carryOut records s).2 = none ↔
      (∃ row, (s.write r.site (.started records.length)).2 = .ok row) ∧
        ∃ o ∈ records, r.crashes o = true := by
  unfold carryOut
  split
  · rename_i begun row written
    simp only [written, Except.ok.injEq, exists_eq', true_and, ← List.any_eq_true]
    split <;> simp [*]
  · rename_i written
    simp [written]

/-- Otherwise it answers as a run does. -/
theorem carryOut_of_answered (answered : (r.carryOut records s).2 ≠ none) :
    r.carryOut records s = ((r.run records s).1, some (r.run records s).2) := by
  unfold carryOut at answered ⊢
  split
  · rename_i written
    simp only [written] at answered
    split
    · rename_i crashes
      exact absurd (by rw [if_pos crashes]) answered
    · rfl
  · rename_i written
    rw [run_of_refused written]

/-- All of a run whose records do not crash is done before it ends. -/
theorem broken_of_quiet (quiet : ∀ o ∈ records, r.crashes o = false) (s : State κ) :
    r.broken records s = (r.work records s).1 := by
  have calm : ∀ chunk ∈ pieces r.chunkSize records, (!chunk.any r.crashes) = true := by
    intro chunk piece
    simpa using quiet_of_mem_pieces quiet chunk piece
  have none : (pieces r.chunkSize records).find? (fun chunk => chunk.any r.crashes) = none :=
    List.find?_eq_none.mpr fun chunk piece => by simpa using calm chunk piece
  have whole : (pieces r.chunkSize records).takeWhile (fun chunk => !chunk.any r.crashes) =
      pieces r.chunkSize records := by
    simpa using @List.takeWhile_append_of_pos _ _ _ [] calm
  simp only [broken, none, whole, work]

end Outcomes

/-- The chunks in front of the first record that crashes. -/
def wholeChunks (r : Chunked) (records : List Observation) : List (List Observation) :=
  (r.chunks records).takeWhile fun chunk => !chunk.any r.crashes

theorem length_flatten_wholeChunks (r : Chunked) (records : List Observation) :
    (r.wholeChunks records).flatten.length ≤ records.length := by
  have split : (r.wholeChunks records).flatten ++
      ((r.chunks records).dropWhile fun chunk => !chunk.any r.crashes).flatten = records := by
    rw [wholeChunks, ← List.flatten_append, List.takeWhile_append_dropWhile, chunks_eq_pieces,
      flatten_pieces r.chunkSize_pos]
  have size := congrArg List.length split
  rw [List.length_append] at size
  omega

section Broken

variable [Path.Evaluator]

/-- The work of a run that crashes: the chunks it gets through. -/
def workUntilCrash (r : Chunked) (records : List Observation) (s : State κ) : State κ × Tally :=
  r.handleAll (r.chunks records).length 1 (r.wholeChunks records)
    (s.note (r.startedEntry records.length))
    (.start records.length r.settings.maxRetainedErrors)

/-- After the last chunk that it gets through, the run makes entries in the journal alone. -/
theorem broken_eq_record (r : Chunked) (records : List Observation) (s : State κ) :
    ∃ notes : List Journal.Entry,
      r.broken records s = (r.workUntilCrash records s).1.record (notes.map .noted) := by
  unfold broken workUntilCrash wholeChunks
  simp only [chunks_eq_pieces]
  split
  · rename_i chunk _
    exact ⟨(r.refusedUntilCrash chunk).map Mapping.UnsafeKey.entry, by rw [List.map_map]; rfl⟩
  · exact ⟨[], by simp [State.record]⟩

theorem holds_workUntilCrash {motive : Action → Prop} (kept : KeptByProgress r.site.now motive)
    {s : State κ} (holds : Holds r.site motive s.store) :
    Holds r.site motive (r.workUntilCrash records s).1.store := by
  have fits := r.length_flatten_wholeChunks records
  have steady := (steady_holds (κ := κ) kept records.length).lockstep
  have noted : Holds r.site motive (s.note (r.startedEntry records.length)).store := holds
  refine (together_handleAll steady ⟨rfl, noted⟩ _ 1 (r.wholeChunks records) ?_ (Nat.le_refl _)).1.2
  simpa [Tally.start, Counters.ofTotal] using fits

/-- A run that crashes leaves its job to be worked on again, with the counts of some progress or with
none. It has made the calls of the chunks in front of the record that crashes, and no others. -/
theorem crash_leaves_job_underway {s : State κ} {row : Action}
    (found : s.store.find r.site.key = some row) (crashed : (r.carryOut records s).2 = none) :
    (∃ next, (r.carryOut records s).1.store.find r.site.key = some next ∧ BegunFrom row next) ∧
    submissions (r.carryOut records s).1.events = submissions s.events ++
      ((r.wholeChunks records).filter (·.any r.maps)).map r.callFor := by
  rcases s.write_cases r.site (.started records.length) with
    ⟨present, same, admitted, written⟩ | ⟨e, written⟩
  · cases Option.some.inj (found.symm.trans same)
    have crashes := List.any_eq_true.mpr (carryOut_eq_none_iff.mp crashed).2
    simp only [carryOut, written, crashes, ↓reduceIte]
    obtain ⟨notes, broken⟩ := r.broken_eq_record records
      (s.accepted r.site.key (row.accept (.started records.length) r.site.now)
        (.started records.length))
    rw [broken]
    refine ⟨holds_workUntilCrash (keptByProgress_begunFrom r.site.now row)
      ⟨_, State.find_accepted _ _ _ _, .accept_started admitted _⟩, ?_⟩
    have quiet : submissions (notes.map (.noted : Journal.Entry → Event κ)) = [] :=
      submissions_noted id notes
    rw [State.events_record, submissions_append, quiet, List.append_nil, workUntilCrash,
      (counts_handleAll r _ 1 (r.wholeChunks records) _ _).submitted, flatMap_callsOf]
    simp [State.accepted, submissions]
  · simp [carryOut, written] at crashed

end Broken

/-- The path is a slice in steps of zero. -/
def slicedRun : Chunked :=
  { sampleRun with
    params := ⟨"d", ⟨.custom (some (.root (some ⟨.input, "$[::0]"⟩))), .full, .full⟩⟩ }

example : (slicedRun.carryOut [⟨"o", "t", .arr [.int 1], .null, .null⟩]
    (.ofStore sampleStore : State Unit)).2 = none := rfl

end Chunked

namespace Processor

variable {p : Processor} {s : State ScheduleCall}

/-- A job that comes to a run over observations has a row that is not finished, parameters that parse,
and records. -/
theorem datasetRun?_eq_some {r : Chunked} {records : List Observation}
    {begun : State ScheduleCall} (ran : p.datasetRun? s = some (r, records, begun)) :
    ∃ a params, p.find s = .ok a ∧ a.status.isTerminal = false ∧
      Params.parse a.kind a.config = .ok (.addToDataset params) ∧
      p.services.observations p.site.projectId a.query = .ok records ∧
      r = p.datasetRun params ∧
      begun = p.asked a (.observations p.site.projectId a.query) s := by
  unfold datasetRun? at ran
  split at ran
  · cases ran
  · rename_i a found
    split at ran
    · cases ran
    · rename_i unfinished
      split at ran
      · rename_i params selected parsed known
        cases ran
        exact ⟨a, params, found, Bool.eq_false_iff.mpr unfinished, parsed, known, rfl, rfl⟩
      · cases ran

theorem process_of_datasetRun? [Path.Evaluator] {r : Chunked} {records : List Observation}
    {begun : State ScheduleCall} (ran : p.datasetRun? s = some (r, records, begun)) :
    p.process s = ofRun (r.run records begun) := by
  obtain ⟨a, params, found, unfinished, parsed, selected, rfl, rfl⟩ := datasetRun?_eq_some ran
  have started := start_of_observations parsed selected s
  simp only [process, found, unfinished, Bool.false_eq_true, ↓reduceIte, started]
  rfl

/-- A job that does not crash answers as a processed job does. -/
theorem carryOut_of_answered [Path.Evaluator] (answered : (p.carryOut s).2 ≠ none) :
    p.carryOut s = ((p.process s).1, some (p.process s).2) := by
  unfold carryOut at answered ⊢
  split
  · rename_i r records begun ran
    simp only [ran] at answered
    have whole : (r.carryOut records begun).2 ≠ none := by
      intro none
      exact answered (by rw [none]; rfl)
    rw [process_of_datasetRun? ran, Chunked.carryOut_of_answered whole]
    rfl
  · rfl

/-- No other job asks the path evaluator for anything. -/
theorem process_eq_of_datasetRun?_eq_none (evaluator other : Path.Evaluator)
    (elsewhere : p.datasetRun? s = none) :
    @process evaluator p s = @process other p s := by
  unfold datasetRun? at elsewhere
  cases found : p.find s with
  | error e => simp only [process, found]
  | ok a =>
    by_cases terminal : a.status.isTerminal = true
    · simp only [process, found, terminal, ↓reduceIte]
    · simp only [process, found, terminal, Bool.false_eq_true, ↓reduceIte, start]
      cases parsed : Params.parse a.kind a.config with
      | error e => rfl
      | ok params =>
        cases params with
        | runEvaluation params => rfl
        | addToDataset params =>
          cases selected : p.services.observations p.site.projectId a.query with
          | error e => simp only [runDataset, selected]
          | ok records => simp [found, terminal, parsed, selected] at elsewhere

/-- Whatever completes the path evaluator at hand, a job comes to the same. -/
theorem carryOut_eq {evaluator other : Path.Evaluator} (completes : evaluator.Completes)
    (also : other.Completes) (p : Processor) (s : State ScheduleCall) :
    @carryOut evaluator p s = @carryOut other p s := by
  unfold carryOut
  split
  · rw [Chunked.carryOut_eq completes also]
  · rename_i elsewhere
    rw [process_eq_of_datasetRun?_eq_none evaluator other elsewhere]

/-- A job that crashes is left to be worked on again. -/
theorem crash_leaves_job_underway [Path.Evaluator] {store : Store} {a : Action}
    (found : store.find p.site.key = some a)
    (crashed : (p.carryOut (.ofStore store)).2 = none) :
    ∃ next, (p.carryOut (.ofStore store)).1.store.find p.site.key = some next ∧ BegunFrom a next := by
  unfold carryOut at crashed ⊢
  split
  · rename_i r records begun ran
    simp only [ran, Option.map_eq_none_iff] at crashed
    obtain ⟨_, params, _, _, _, _, rfl, rfl⟩ := datasetRun?_eq_some ran
    exact (Chunked.crash_leaves_job_underway (r := p.datasetRun params) found crashed).1
  · rename_i elsewhere
    simp [elsewhere] at crashed

end Processor

end BulkActions.Run
