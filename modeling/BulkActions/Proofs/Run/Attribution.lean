import BulkActions.Proofs.Mapping.Fields
import BulkActions.Proofs.Run.Outage

/-! Whom the error lines of a chunked run are about. A record that cannot be mapped is named with its
messages. A fault that the sink reports is about the observation behind the item at that place of the
call, and the items of a call leave out the records of the chunk that cannot be mapped. -/

namespace BulkActions.Run

open Dataset Job

variable {κ : Type}

/-- The line of a fault in the submission of these observations. -/
def faultAbout (submitted : List Observation) (f : ItemFault) : String :=
  match submitted[f.index]? with
  | some o => observationLine o.id f.message
  | none => s!"Item {f.index}: {f.message}"

/-- The lines for the answer to the submission of these observations. -/
def answerLines (number : Nat) (submitted : List Observation) :
    Except Error BulkReport → List String
  | .ok report => report.faults.map (faultAbout submitted)
  | .error e => [outageLine number submitted.length e]

namespace Chunked

section Runs

variable [Path.Evaluator]

/-- The messages of a record, field by field. -/
def messages (r : Chunked) (o : Observation) : List String :=
  [Mapping.Target.input, .expectedOutput, .metadata].flatMap fun target =>
    ((Mapping.applyTarget o.record r.params.mapping target).errors target).map (·.message)

/-- The line of a record that cannot be mapped. -/
def unmappedLine (r : Chunked) (o : Observation) : String :=
  observationLine o.id ("; ".intercalate (r.messages o))

/-- The error lines of the chunk at a place: those of its records that cannot be mapped, then those
for the answer to its call, if it makes one. Of the earlier chunks each has made a call that has a
record it can submit. -/
def linesAt (r : Chunked) (records : List Observation) (first place : Nat)
    (chunk : List Observation) : List String :=
  (chunk.filter fun o => !r.maps o).map r.unmappedLine ++
    if chunk.any r.maps then
      answerLines (place + 1) (chunk.filter r.maps)
        (r.sink (first + ((r.chunks records).take place).countP (·.any r.maps))
          (r.callFor chunk).items)
    else []

/-- The lines a run may quote: the first of each chunk, over the chunks in order, and of all these the
first. -/
def quotableLines (r : Chunked) (records : List Observation) (first : Nat) : List String :=
  ((r.chunks records).zipIdx.flatMap fun (chunk, place) =>
    (r.linesAt records first place chunk).take r.settings.maxErrorsPerChunk).take
      r.settings.maxRetainedErrors

theorem errorText_eq (r : Chunked) (o : Observation) :
    errorText (Mapping.apply o.record r.params.mapping).errors =
      "; ".intercalate (r.messages o) := by
  rw [errorText, Mapping.errors_apply, List.map_flatMap, messages]

theorem lines_mapChunk (r : Chunked) (chunk : List Observation) :
    (mapChunk r.params chunk).lines = (chunk.filter fun o => !r.maps o).map r.unmappedLine := by
  induction chunk with
  | nil => rfl
  | cons o rest ih =>
    by_cases clean : r.maps o = true
    · have mapped : (Mapping.apply o.record r.params.mapping).errors.isEmpty = true := clean
      simp [mapChunk, mapped, clean, ih]
    · have failed : ¬ (Mapping.apply o.record r.params.mapping).errors.isEmpty = true := clean
      simp [mapChunk, failed, clean, ih, unmappedLine, errorText_eq]

/-- A place in a call is one among the records that were submitted. -/
theorem faultLine_map_itemFor (r : Chunked) (submitted : List Observation) (f : ItemFault) :
    faultLine (submitted.map r.itemFor) f = faultAbout submitted f := by
  unfold faultLine faultAbout
  rw [List.getElem?_map]
  cases submitted[f.index]? <;> rfl

theorem lines_settle (r : Chunked) (number : Nat) (submitted : List Observation)
    (answer : Except Error BulkReport) :
    (settle number (submitted.map r.itemFor) answer).lines =
      answerLines number submitted answer := by
  cases answer with
  | ok report => simp [settle, answerLines, faultLine_map_itemFor]
  | error e => simp [settle, answerLines, outageLine]

theorem chunkLines_eq (r : Chunked) (number call : Nat) (chunk : List Observation) :
    r.chunkLines number call chunk =
      (chunk.filter fun o => !r.maps o).map r.unmappedLine ++
        if chunk.any r.maps then
          answerLines number (chunk.filter r.maps) (r.sink call (r.callFor chunk).items)
        else [] := by
  have submitted : (mapChunk r.params chunk).items = (chunk.filter r.maps).map r.itemFor :=
    items_mapChunk r chunk
  have empty : ((chunk.filter r.maps).map r.itemFor).isEmpty = !chunk.any r.maps := by
    rw [Bool.eq_iff_iff]
    simp
  simp only [chunkLines, lines_mapChunk, submitted, lines_settle, callFor, empty]
  cases chunk.any r.maps <;> rfl

/-- What comes before a chunk decides its number and that of its call. -/
theorem linesFrom_eq_flatMap (r : Chunked) (first : Nat) (earlier later : List (List Observation)) :
    r.linesFrom (earlier.length + 1) (first + earlier.countP (·.any r.maps)) later =
      (later.zipIdx earlier.length).flatMap fun (chunk, place) =>
        (r.chunkLines (place + 1)
          (first + ((earlier ++ later).take place).countP (·.any r.maps)) chunk).take
            r.settings.maxErrorsPerChunk := by
  induction later generalizing earlier with
  | nil => rfl
  | cons chunk rest ih =>
    have calls : (r.callsOf chunk).length = [chunk].countP (·.any r.maps) := by
      rw [← length_callsOf, List.flatMap_singleton]
    have next := ih (earlier ++ [chunk])
    rw [List.length_append, List.length_singleton, List.countP_append, ← calls,
      List.append_assoc, List.singleton_append] at next
    have before : (earlier ++ chunk :: rest).take earlier.length = earlier := List.take_left
    simp only [linesFrom, Nat.add_assoc first, next, List.zipIdx_cons, List.flatMap_cons, before]

theorem retained_eq_quotableLines (r : Chunked) (records : List Observation) (s : State κ) :
    r.retained records s = r.quotableLines records s.submissions := by
  have lines := linesFrom_eq_flatMap r s.submissions [] (pieces r.chunkSize records)
  rw [List.length_nil, Nat.zero_add, List.countP_nil, Nat.add_zero] at lines
  rw [retained_eq_take, lines, quotableLines, chunks_eq_pieces]
  simp only [chunkLines_eq, linesAt, chunks_eq_pieces, List.nil_append]

/-- A run that begins makes one call for each chunk with a record it can map, of the items of these
records. Its log is there exactly if something failed, and it is the summary of the first of its lines:
over the chunks in order, of each the first of those for its records that cannot be mapped and for the
answer to its call. -/
theorem log_quotes_first_lines {r : Chunked} {records : List Observation} {s : State κ}
    (begins : r.Begins records s) :
    (submissions (r.run records s).1.events = submissions s.events ++
      ((r.chunks records).filter (·.any r.maps)).map r.callFor) ∧
    ∃ o, Concludes r.site.now (r.run records s) o ∧ (o.log.isSome ↔ 0 < o.failed) ∧
      o.log = Run.summary o.failed s!"{o.failed} items failed to add to dataset"
        ⟨r.quotableLines records s.submissions, r.settings.maxRetainedErrors⟩ r.summary := by
  obtain ⟨_, _, submitted, _⟩ := concludes_of_begins begins
  obtain ⟨o, concludes, log⟩ := logs_retained begins
  rw [retained_eq_quotableLines] at log
  refine ⟨by rw [submitted, callsFor_eq], o, concludes, ?_, log⟩
  rw [log, Run.summary]
  split
  · simp [*]
  · simpa using Nat.pos_of_ne_zero ‹_›

end Runs

/-- Chunks of three in front of a sink that is down at first. Then it reports three faults, one of
them of an item that it was not given. A chunk may keep three lines, and the run five. -/
def noisyRun : Chunked :=
  { sampleRun with
    settings := { chunkSize := 3, maxErrorsPerChunk := 3, maxRetainedErrors := 5 }
    sink := fun number _ =>
      if number = 0 then .error (.sink "down")
      else .ok ⟨false, 0, 2, [⟨1, "late"⟩, ⟨5, "odd"⟩, ⟨0, "cut"⟩]⟩ }

/-- The first record of each chunk cannot be mapped, and the last chunk has no other. -/
def noisyRecords : List Observation :=
  sampleRecords.drop 1 ++ sampleRecords ++ sampleRecords.take 2

/-- The line of that record. -/
def missingAnswer : String :=
  "Observation o2: JSONPath '$.answer' did not match any data in output (target: input)"

theorem log_quotes_first_lines_noisy :
    noisyRun.Begins noisyRecords (.ofStore sampleStore : State Unit) ∧
    (submissions (noisyRun.run noisyRecords (.ofStore sampleStore : State Unit)).1.events).map
      (fun call => call.items.map (·.sourceObservationId)) = [["o3", "o1"], ["o3", "o1"]] ∧
    ∃ o, Concludes noisyRun.site.now
        (noisyRun.run noisyRecords (.ofStore sampleStore : State Unit)) o ∧
      o.log = Run.summary o.failed s!"{o.failed} items failed to add to dataset"
        ⟨[missingAnswer, outageLine 1 2 (.sink "down"), missingAnswer, "Observation o1: late",
          "Item 5: odd"], 5⟩ noisyRun.summary := by
  have begins : noisyRun.Begins noisyRecords (.ofStore sampleStore : State Unit) :=
    begins_of_ready (s := (.ofStore sampleStore : State Unit)) ready_sample
  obtain ⟨submitted, o, concludes, _, log⟩ := log_quotes_first_lines begins
  exact ⟨begins, by rw [submitted]; rfl, o, concludes, log⟩

end Chunked

end BulkActions.Run
