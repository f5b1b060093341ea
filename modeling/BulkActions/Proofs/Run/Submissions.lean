import BulkActions.Proofs.Run.Chunked

/-! What a chunked run submits: the items of the records that can be mapped, in order, in one call
for each chunk that has such a record. The answers of the sink make no difference. -/

namespace BulkActions.Run

open Dataset Job

variable {κ : Type}

namespace Chunked

/-- The records in chunks, by the numbers of the chunks. -/
def chunks (r : Chunked) (records : List Observation) : List (List Observation) :=
  (List.range ((records.length + r.chunkSize - 1) / r.chunkSize)).map fun k =>
    (records.drop (k * r.chunkSize)).take r.chunkSize

theorem chunks_eq_pieces (r : Chunked) (records : List Observation) :
    r.chunks records = pieces r.chunkSize records := (pieces_eq_map_range r.chunkSize_pos records).symm

variable [Path.Evaluator]

/-- The record is mapped without an error. -/
def maps (r : Chunked) (o : Observation) : Bool :=
  (Mapping.apply o.record r.params.mapping).errors.isEmpty

/-- The item of a record: its own ids, and what the mapping makes of this record alone. -/
def itemFor (r : Chunked) (o : Observation) : Item where
  datasetId := r.params.datasetId
  input := (Mapping.apply o.record r.params.mapping).value .input
  expectedOutput := (Mapping.apply o.record r.params.mapping).value .expectedOutput
  metadata := (Mapping.apply o.record r.params.mapping).value .metadata
  sourceTraceId := o.traceId
  sourceObservationId := o.id

/-- The call that submits what can be mapped of a chunk. -/
def callFor (r : Chunked) (chunk : List Observation) : SinkCall :=
  ⟨r.site.projectId, r.params.datasetId, (chunk.filter r.maps).map r.itemFor⟩

theorem items_mapChunk (r : Chunked) (chunk : List Observation) :
    (mapChunk r.params chunk).items = (chunk.filter r.maps).map r.itemFor := by
  induction chunk with
  | nil => rfl
  | cons o rest ih =>
    by_cases clean : r.maps o = true
    · have mapped : (Mapping.apply o.record r.params.mapping).errors.isEmpty = true := clean
      simp only [mapChunk, mapped, ↓reduceIte, List.filter_cons_of_pos clean, List.map_cons, ih]
      rfl
    · have failed : ¬ (Mapping.apply o.record r.params.mapping).errors.isEmpty = true := clean
      simp [mapChunk, failed, List.filter_cons_of_neg clean, ih]

theorem callsOf_eq (r : Chunked) (chunk : List Observation) :
    r.callsOf chunk = if chunk.any r.maps then [r.callFor chunk] else [] := by
  have empty : ((chunk.filter r.maps).map r.itemFor).isEmpty = !chunk.any r.maps := by
    rw [Bool.eq_iff_iff]
    simp
  by_cases some : chunk.any r.maps = true <;> simp [callsOf, items_mapChunk, empty, some, callFor]

theorem flatMap_callsOf (r : Chunked) (chunks : List (List Observation)) :
    chunks.flatMap r.callsOf = (chunks.filter (·.any r.maps)).map r.callFor := by
  induction chunks with
  | nil => rfl
  | cons chunk rest ih =>
    rw [List.flatMap_cons, callsOf_eq, ih]
    by_cases some : chunk.any r.maps = true <;> simp [some]

theorem callsFor_eq (r : Chunked) (records : List Observation) :
    r.callsFor records = ((r.chunks records).filter (·.any r.maps)).map r.callFor := by
  rw [callsFor, flatMap_callsOf, chunks_eq_pieces]

theorem items_callsOf (r : Chunked) (chunk : List Observation) :
    (r.callsOf chunk).flatMap SinkCall.items = (chunk.filter r.maps).map r.itemFor := by
  rw [callsOf_eq]
  split
  · exact List.append_nil _
  · rename_i none
    have empty : chunk.filter r.maps = [] := by simpa using none
    rw [empty]
    rfl

theorem items_callsFor (r : Chunked) (records : List Observation) :
    (r.callsFor records).flatMap SinkCall.items = (records.filter r.maps).map r.itemFor := by
  calc (r.callsFor records).flatMap SinkCall.items
    _ = (pieces r.chunkSize records).flatMap fun chunk =>
          (chunk.filter r.maps).map r.itemFor := by
        simp only [callsFor, List.flatMap_assoc, items_callsOf]
    _ = ((pieces r.chunkSize records).flatten.filter r.maps).map r.itemFor := by
        simp only [List.filter_flatten, List.map_flatten, List.map_map, List.flatMap_def]
        rfl
    _ = (records.filter r.maps).map r.itemFor := by rw [flatten_pieces r.chunkSize_pos]

/-- No call is empty, and none is longer than a chunk. -/
theorem length_of_mem_callsFor {r : Chunked} {records : List Observation} {call : SinkCall}
    (member : call ∈ r.callsFor records) :
    0 < call.items.length ∧ call.items.length ≤ r.chunkSize := by
  rw [callsFor_eq] at member
  obtain ⟨chunk, kept, rfl⟩ := List.mem_map.mp member
  obtain ⟨present, some⟩ := List.mem_filter.mp kept
  obtain ⟨k, _, rfl⟩ := List.mem_map.mp present
  obtain ⟨o, inside, clean⟩ := List.any_eq_true.mp some
  rw [callFor, List.length_map]
  constructor
  · exact List.length_pos_of_mem (List.mem_filter.mpr ⟨inside, clean⟩)
  · exact Nat.le_trans (List.length_filter_le _ _) (List.length_take_le _ _)

/-- A run submits chunk by chunk what its first write lets it begin with; a run that cannot begin
submits nothing. -/
theorem submissions_run (r : Chunked) (records : List Observation) (s : State κ) :
    (∃ row, (s.write r.site (.started records.length)).2 = .ok row ∧
      submissions (r.run records s).1.events = submissions s.events ++ r.callsFor records) ∨
    ∃ e, (s.write r.site (.started records.length)).2 = .error e ∧
      (r.run records s).2 = .error e ∧
      submissions (r.run records s).1.events = submissions s.events := by
  rcases s.write_cases r.site (.started records.length) with ⟨row, _, _, written⟩ | ⟨e, written⟩
  · left
    refine ⟨row.accept (.started records.length) r.site.now, by rw [written], ?_⟩
    rw [run_of_started written, Tally.submissions_events_finish,
      (counts_work r records _).submitted]
    simp [State.accepted, submissions]
  · right
    have stopped : r.run records s = (s.refused (.started records.length) e, .error e) :=
      run_of_refused written
    exact ⟨e, by rw [written], by rw [stopped], by rw [stopped]; simp [State.refused, submissions]⟩

/-- A run that begins submits the items of the records that can be mapped, each once and in order,
each made of its own record alone. It makes one call for each chunk that has such a record, and
whatever the sink answers, the calls stay the same. A run that cannot begin submits nothing. -/
theorem run_submits_mapped_records (r : Chunked) (records : List Observation) (s : State κ) :
    (∃ row calls, (s.write r.site (.started records.length)).2 = .ok row ∧
      submissions (r.run records s).1.events = submissions s.events ++ calls ∧
      calls.flatMap SinkCall.items = (records.filter r.maps).map r.itemFor ∧
      calls = ((r.chunks records).filter (·.any r.maps)).map r.callFor ∧
      (∀ call ∈ calls, 0 < call.items.length ∧ call.items.length ≤ r.chunkSize) ∧
      ∀ sink, submissions (({ r with sink := sink } : Chunked).run records s).1.events =
        submissions s.events ++ calls) ∨
    ∃ e, (s.write r.site (.started records.length)).2 = .error e ∧
      (r.run records s).2 = .error e ∧
      submissions (r.run records s).1.events = submissions s.events := by
  rcases submissions_run r records s with ⟨row, begins, submitted⟩ | refused
  · left
    refine ⟨row, r.callsFor records, begins, submitted, items_callsFor r records,
      callsFor_eq r records, fun call => length_of_mem_callsFor, ?_⟩
    intro sink
    rcases submissions_run { r with sink := sink } records s with ⟨_, _, other⟩ | ⟨e, refused, _⟩
    · exact other
    · rw [begins] at refused
      cases refused
  · exact .inr refused

end Chunked

end BulkActions.Run
