import BulkActions.Proofs.Run.Retained

/-! When an outage of the sink shows in the error lines of a chunked run. The line of a call that failed
comes after the lines of the records of its chunk that cannot be mapped, and it is retained exactly if
those leave room for it, among the lines of its chunk and among those of the run. -/

namespace BulkActions.Run

open Dataset Job

variable {κ : Type}

/-- In a list cut to its first items, an item is found exactly if those before it leave room for it. -/
theorem mem_take_append_cons_iff {α : Type} {x : α} {before : List α} (fresh : x ∉ before)
    (after : List α) (limit : Nat) :
    x ∈ (before ++ x :: after).take limit ↔ before.length < limit := by
  rw [List.take_append, List.mem_append]
  constructor
  · rintro (early | late)
    · exact absurd (List.mem_of_mem_take early) fresh
    · refine Nat.lt_of_not_le fun full => ?_
      rw [Nat.sub_eq_zero_of_le full, List.take_zero] at late
      cases late
  · intro room
    right
    rw [List.take_cons (Nat.sub_pos_of_lt room)]
    exact List.mem_cons_self

/-- The same where the item is the last of a part that is cut first. -/
theorem mem_take_append_take_iff {α : Type} {x : α} {before own after : List α}
    (earlier : x ∉ before) (fresh : x ∉ own) (later : x ∉ after) (part limit : Nat) :
    x ∈ (before ++ ((own ++ [x]).take part ++ after)).take limit ↔
      own.length < part ∧ (before.take limit).length + own.length < limit := by
  rw [List.length_take]
  by_cases room : own.length < part
  · have whole : (own ++ [x]).take part = own ++ [x] :=
      List.take_of_length_le (by rw [List.length_append]; exact room)
    have absent : x ∉ before ++ own := by simp [earlier, fresh]
    rw [whole, List.append_assoc, List.singleton_append, ← List.append_assoc,
      mem_take_append_cons_iff absent, List.length_append]
    omega
  · have cut : (own ++ [x]).take part = own.take part :=
      List.take_append_of_le_length (Nat.not_lt.mp room)
    refine iff_of_false (fun member => ?_) fun both => room both.1
    have present := List.mem_of_mem_take member
    rw [cut, List.mem_append, List.mem_append] at present
    rcases present with before | own | after
    · exact earlier before
    · exact fresh (List.mem_of_mem_take own)
    · exact later after

/-- An item that passes a filter comes after those before it that pass. -/
theorem getElem?_filter {α : Type} {p : α → Bool} {xs : List α} {k : Nat} {x : α}
    (present : xs[k]? = some x) (passes : p x = true) :
    (xs.filter p)[(xs.take k).countP p]? = some x := by
  induction xs generalizing k with
  | nil => cases present
  | cons first rest ih =>
    cases k with
    | zero =>
      have same : first = x := Option.some.inj present
      rw [same, List.filter_cons_of_pos passes]
      rfl
    | succ k =>
      have later := ih (k := k) present
      by_cases kept : p first = true
      · rw [List.filter_cons_of_pos kept, List.take_succ_cons, List.countP_cons_of_pos kept,
          List.getElem?_cons_succ, later]
      · rw [List.filter_cons_of_neg kept, List.take_succ_cons, List.countP_cons_of_neg kept, later]

/-- The line of a chunk whose call failed. -/
def outageLine (number count : Nat) (e : Error) : String :=
  s!"Chunk {number}: failed to create {count} items: {e.message}"

theorem toList_outageLine (number count : Nat) (e : Error) :
    ∃ rest, (outageLine number count e).toList =
      "Chunk ".toList ++ (Nat.toDigits 10 number ++ ':' :: rest) := by
  refine ⟨(" failed to create " ++ toString count ++ " items: " ++ e.message).toList, ?_⟩
  simp [outageLine, toString]

/-- The digits of a number, up to what is no digit. -/
theorem takeWhile_toDigits (n : Nat) (rest : List Char) :
    (Nat.toDigits 10 n ++ ':' :: rest).takeWhile Char.isDigit = Nat.toDigits 10 n := by
  have digits : ∀ c ∈ Nat.toDigits 10 n, c.isDigit = true :=
    fun _ member => Nat.isDigit_of_mem_toDigits (by decide) (by decide) member
  rw [List.takeWhile_append_of_pos digits, List.takeWhile_cons_of_neg (by decide), List.append_nil]

/-- The line tells the number of its chunk. -/
theorem number_eq_of_outageLine {number other count size : Nat} {e f : Error}
    (same : outageLine number count e = outageLine other size f) : number = other := by
  obtain ⟨rest, text⟩ := toList_outageLine number count e
  obtain ⟨tail, written⟩ := toList_outageLine other size f
  rw [same, written] at text
  have digits := congrArg (List.takeWhile Char.isDigit) (List.append_cancel_left text)
  rw [takeWhile_toDigits, takeWhile_toDigits] at digits
  have read := congrArg (Nat.ofDigitChars 10 · 0) digits
  simpa using read.symm

/-- This line is not that of a failed call of the chunk with this number. -/
def Foreign (number : Nat) (line : String) : Prop := ∀ count e, line ≠ outageLine number count e

/-- The other lines do not even begin with the same character. -/
theorem foreign_of_head {line : String} (other : line.toList.head? ≠ some 'C') (number : Nat) :
    Foreign number line := by
  rintro count e rfl
  obtain ⟨rest, text⟩ := toList_outageLine number count e
  rw [text] at other
  exact other rfl

theorem foreign_observationLine (number : Nat) (id text : String) :
    Foreign number (observationLine id text) :=
  foreign_of_head (by simp [observationLine, toString]) number

theorem foreign_mapChunk [Path.Evaluator] (number : Nat) (params : DatasetParams)
    (chunk : List Observation) :
    ∀ line ∈ (mapChunk params chunk).lines, Foreign number line := by
  induction chunk with
  | nil => simp [mapChunk]
  | cons o rest ih =>
    simp only [mapChunk]
    split
    · exact ih
    · exact List.forall_mem_cons.mpr ⟨foreign_observationLine number _ _, ih⟩

theorem foreign_settle {number other : Nat} (differs : other ≠ number) (items : List Item)
    (answer : Except Error BulkReport) :
    ∀ line ∈ (settle other items answer).lines, Foreign number line := by
  cases answer with
  | ok report =>
    refine List.forall_mem_map.mpr fun fault _ => ?_
    unfold faultLine
    split
    · exact foreign_observationLine number _ _
    · exact foreign_of_head (by simp [toString]) number
  | error e =>
    refine List.forall_mem_singleton.mpr fun count f same => ?_
    have line : outageLine other items.length e = outageLine number count f := same
    exact differs (number_eq_of_outageLine line)

namespace Chunked

section Runs

variable [Path.Evaluator] {r : Chunked}

theorem foreign_chunkLines {number other : Nat} (differs : other ≠ number) (r : Chunked) (call : Nat)
    (chunk : List Observation) : ∀ line ∈ r.chunkLines other call chunk, Foreign number line := by
  unfold chunkLines
  refine List.forall_mem_append.mpr ⟨foreign_mapChunk number r.params chunk, ?_⟩
  split
  · simp
  · exact foreign_settle differs _ _

/-- Chunks with other numbers keep none of its lines. -/
theorem foreign_linesFrom {number first : Nat} (r : Chunked) (call : Nat)
    {chunks : List (List Observation)} (outside : number < first ∨ first + chunks.length ≤ number) :
    ∀ line ∈ r.linesFrom first call chunks, Foreign number line := by
  induction chunks generalizing first call with
  | nil => simp [linesFrom]
  | cons chunk rest ih =>
    rw [List.length_cons] at outside
    refine List.forall_mem_append.mpr ⟨fun line member => ?_, ih _ (by omega)⟩
    exact foreign_chunkLines (by omega) r call chunk line (List.mem_of_mem_take member)

/-- How many records of a chunk cannot be mapped. -/
def unmapped (r : Chunked) (chunk : List Observation) : Nat := chunk.countP fun o => !r.maps o

theorem length_lines_mapChunk (r : Chunked) (chunk : List Observation) :
    (mapChunk r.params chunk).lines.length = r.unmapped chunk := by
  induction chunk with
  | nil => rfl
  | cons o rest ih =>
    rw [unmapped, List.countP_cons, ← unmapped, ← ih]
    by_cases clean : r.maps o = true
    · have mapped : (Mapping.apply o.record r.params.mapping).errors.isEmpty = true := clean
      simp [mapChunk, mapped, clean]
    · have failed : ¬ (Mapping.apply o.record r.params.mapping).errors.isEmpty = true := clean
      simp [mapChunk, failed, clean]

theorem length_callsOf (r : Chunked) (chunks : List (List Observation)) :
    (chunks.flatMap r.callsOf).length = chunks.countP (·.any r.maps) := by
  induction chunks with
  | nil => rfl
  | cons chunk rest ih =>
    rw [List.flatMap_cons, List.length_append, ih, callsOf_eq, List.countP_cons, Nat.add_comm]
    split <;> rfl

/-- The line of a failed call is the last one of its chunk. -/
theorem chunkLines_of_failed {number call : Nat} {chunk : List Observation} {e : Error}
    (clean : chunk.any r.maps = true) (failed : r.sink call (r.callFor chunk).items = .error e) :
    r.chunkLines number call chunk = (mapChunk r.params chunk).lines ++
      [outageLine number (r.callFor chunk).items.length e] := by
  have submitted : (mapChunk r.params chunk).items = (r.callFor chunk).items := items_mapChunk r chunk
  have some : (r.callFor chunk).items.isEmpty = false := by simpa [callFor] using clean
  simp only [chunkLines, submitted, some, failed, Bool.false_eq_true, ↓reduceIte]
  rfl

/-- The lines that chunks may keep, before, in and after one of them. -/
theorem linesFrom_eq (r : Chunked) (call : Nat) {chunks : List (List Observation)} {k : Nat}
    {chunk : List Observation} (present : chunks[k]? = some chunk) :
    r.linesFrom 1 call chunks = r.linesFrom 1 call (chunks.take k) ++
      ((r.chunkLines (k + 1) (call + (chunks.take k).countP (·.any r.maps)) chunk).take
          r.settings.maxErrorsPerChunk ++
        r.linesFrom (k + 2) (call + (chunks.take (k + 1)).countP (·.any r.maps))
          (chunks.drop (k + 1))) := by
  obtain ⟨inside, same⟩ := List.getElem?_eq_some_iff.mp present
  have whole : chunks.take k ++ chunk :: chunks.drop (k + 1) = chunks := by
    rw [← same, ← List.drop_eq_getElem_cons inside, List.take_append_drop]
  have calls : (r.callsOf chunk).length = [chunk].countP (·.any r.maps) := by
    rw [← length_callsOf, List.flatMap_singleton]
  have size : (chunks.take k).length = k := by
    rw [List.length_take]
    omega
  conv => lhs; rw [← whole]
  rw [linesFrom_append, linesFrom, length_callsOf, size, List.take_succ_eq_append_getElem inside, same,
    List.countP_append, calls, Nat.add_comm 1, Nat.add_assoc call]

/-- The call of a chunk comes after one for each earlier chunk with a record that can be mapped. -/
theorem getElem?_callsFor {records : List Observation} {k : Nat} {chunk : List Observation}
    (present : (r.chunks records)[k]? = some chunk) (clean : chunk.any r.maps = true) :
    (r.callsFor records)[((r.chunks records).take k).countP (·.any r.maps)]? =
      some (r.callFor chunk) := by
  rw [callsFor_eq, List.getElem?_map, getElem?_filter present clean]
  rfl

/-- A run that begins makes the call of each chunk that has a record it can map, and retains the line
of a call that failed exactly if the lines of those records of its chunk that cannot be mapped leave
room for it: among the lines a chunk may keep, and together with the lines retained from earlier chunks,
among those of the run. The log is made of the lines it retains. -/
theorem outage_retained_iff {records : List Observation} {s : State κ} (begins : r.Begins records s)
    {k : Nat} {chunk : List Observation} {e : Error}
    (present : (r.chunks records)[k]? = some chunk) (clean : chunk.any r.maps = true)
    (failed : r.sink (s.submissions + ((r.chunks records).take k).countP (·.any r.maps))
      (r.callFor chunk).items = .error e) :
    (∃ o, Concludes r.site.now (r.run records s) o ∧
      o.log = Run.summary o.failed (headline ⟨o.total, o.processed, o.failed⟩)
        ⟨r.retained records s, r.settings.maxRetainedErrors⟩ r.summary) ∧
    (∃ calls, submissions (r.run records s).1.events = submissions s.events ++ calls ∧
      calls[((r.chunks records).take k).countP (·.any r.maps)]? = some (r.callFor chunk)) ∧
    (outageLine (k + 1) (r.callFor chunk).items.length e ∈ r.retained records s ↔
      r.unmapped chunk < r.settings.maxErrorsPerChunk ∧
      (r.retainedAfter records s k).length + r.unmapped chunk < r.settings.maxRetainedErrors) := by
  obtain ⟨_, _, submitted, _⟩ := concludes_of_begins begins
  refine ⟨logs_retained begins, ⟨_, submitted, getElem?_callsFor present clean⟩, ?_⟩
  rw [chunks_eq_pieces] at present failed
  have inside := (List.getElem?_eq_some_iff.mp present).1
  have numbered : 1 + ((pieces r.chunkSize records).take k).length ≤ k + 1 := by
    rw [List.length_take]
    omega
  rw [retained_eq_take, linesFrom_eq r _ present, chunkLines_of_failed clean failed,
    retainedAfter_eq_take, ← length_lines_mapChunk]
  -- Other chunks have other numbers, and the line of a record begins with another character.
  refine mem_take_append_take_iff (fun member => ?_) (fun member => ?_) (fun member => ?_) _ _
  · exact foreign_linesFrom r _ (.inr numbered) _ member _ _ rfl
  · exact foreign_mapChunk (k + 1) _ _ _ member _ _ rfl
  · exact foreign_linesFrom r _ (.inl (Nat.lt_succ_self _)) _ member _ _ rfl

end Runs

/-- The sample run in front of a sink that is down. A chunk may keep one line. -/
def downRun : Chunked := { sampleRun with sink := fun _ _ => .error (.sink "down") }

theorem outage_retained_iff_down :
    downRun.Begins sampleRecords (.ofStore sampleStore : State Unit) ∧
    (downRun.chunks sampleRecords)[1]? = some (sampleRecords.drop 2) ∧
    (sampleRecords.drop 2).any downRun.maps = true ∧
    downRun.sink 1 (downRun.callFor (sampleRecords.drop 2)).items = .error (.sink "down") ∧
    (∃ o, Concludes downRun.site.now
        (downRun.run sampleRecords (.ofStore sampleStore : State Unit)) o ∧
      o.log = Run.summary o.failed (headline ⟨o.total, o.processed, o.failed⟩)
        ⟨downRun.retained sampleRecords (.ofStore sampleStore : State Unit),
          downRun.settings.maxRetainedErrors⟩ downRun.summary) ∧
    (∃ calls, submissions (downRun.run sampleRecords (.ofStore sampleStore : State Unit)).1.events =
        calls ∧ calls[1]? = some (downRun.callFor (sampleRecords.drop 2))) ∧
    outageLine 2 1 (.sink "down") ∈
      downRun.retained sampleRecords (.ofStore sampleStore : State Unit) := by
  have ready : Ready sampleSite (State.ofStore sampleStore : State Unit).store := ready_sample
  have begins : downRun.Begins sampleRecords (.ofStore sampleStore : State Unit) :=
    begins_of_ready ready
  have present : (downRun.chunks sampleRecords)[1]? = some (sampleRecords.drop 2) := rfl
  have failed : downRun.sink 1 (downRun.callFor (sampleRecords.drop 2)).items =
      .error (.sink "down") := rfl
  obtain ⟨logs, made, shown⟩ := outage_retained_iff begins present rfl failed
  exact ⟨begins, present, rfl, failed, logs, made, shown.mpr ⟨by decide, by decide⟩⟩

/-- Nothing is retained yet when the first call of that run fails, and there is room for a hundred
lines. Still its line is not among those retained in the end: the one line its chunk may keep is that of
a record that cannot be mapped. -/
theorem unmapped_record_hides_outage :
    downRun.Begins sampleRecords (.ofStore sampleStore : State Unit) ∧
    (downRun.chunks sampleRecords)[0]? = some (sampleRecords.take 2) ∧
    (submissions (downRun.run sampleRecords (.ofStore sampleStore : State Unit)).1.events).head? =
      some (downRun.callFor (sampleRecords.take 2)) ∧
    (downRun.callFor (sampleRecords.take 2)).items.length = 1 ∧
    downRun.sink 0 (downRun.callFor (sampleRecords.take 2)).items = .error (.sink "down") ∧
    (downRun.retainedAfter sampleRecords (.ofStore sampleStore : State Unit) 0).length <
      downRun.settings.maxRetainedErrors ∧
    outageLine 1 1 (.sink "down") ∉
      downRun.retained sampleRecords (.ofStore sampleStore : State Unit) := by
  have begins : downRun.Begins sampleRecords (.ofStore sampleStore : State Unit) :=
    begins_of_ready (s := (.ofStore sampleStore : State Unit)) ready_sample
  exact ⟨begins, rfl, rfl, rfl, rfl, by decide, by decide⟩

end Chunked

end BulkActions.Run
