import BulkActions.Proofs.Run.Lockstep

/-! When a chunked run writes, and what. Between its first and its last write there is one for every
chunk whose number is a multiple of the interval, and one for the last chunk; each covers the records
handled so far, and no count ever falls from one write to the next. -/

namespace BulkActions.Run

open Dataset Job

variable {κ : Type}

/-- The updates that were asked for, whether they were accepted or refused. -/
def attempted (events : List (Event κ)) : List Update := (writes events).map Prod.fst

/-- No count of `c` exceeds the same count of `d`. -/
structure Counters.AtMost (c d : Counters) : Prop where
  total : c.total ≤ d.total
  processed : c.processed ≤ d.processed
  failed : c.failed ≤ d.failed

theorem Counters.AtMost.refl (c : Counters) : c.AtMost c :=
  ⟨Nat.le_refl _, Nat.le_refl _, Nat.le_refl _⟩

theorem Counters.AtMost.trans {a b c : Counters} (first : a.AtMost b) (second : b.AtMost c) :
    a.AtMost c :=
  ⟨Nat.le_trans first.total second.total, Nat.le_trans first.processed second.processed,
    Nat.le_trans first.failed second.failed⟩

/-- The counts that an outcome reports. -/
def counted (o : Outcome) : Counters := ⟨o.total, o.processed, o.failed⟩

section Attempts

variable (s : State κ) (site : Site)

theorem attempted_write (u : Update) :
    attempted (s.write site u).1.events = attempted s.events ++ [u] := by
  rcases s.write_cases site u with ⟨row, _, _, written⟩ | ⟨e, written⟩ <;>
    simp [written, attempted]

theorem attempted_note (entry : Journal.Entry) :
    attempted (s.note entry).events = attempted s.events := by
  simp [attempted]

variable (t : Tally)

theorem Tally.attempted_writeProgress (lost : Error → Journal.Entry) :
    attempted (t.writeProgress site lost s).events =
      attempted s.events ++ [t.counters.progress] := by
  rcases s.write_cases site t.counters.progress with ⟨row, _, _, written⟩ | ⟨e, written⟩
  · simp [t.writeProgress_of_accepted lost written, attempted]
  · simp [t.writeProgress_of_refused lost written, attempted]

theorem Tally.attempted_finish (headline : String) (settings : SummarySettings)
    (done : Outcome → Journal.Entry) :
    attempted (t.finish site headline settings done s).1.events =
      attempted s.events ++ [finalWrite site.now (t.outcome headline settings)] := by
  rcases s.write_cases site (finalWrite site.now (t.outcome headline settings)) with
    ⟨row, _, _, written⟩ | ⟨e, written⟩
  · simp [t.finish_of_accepted _ _ done written, attempted]
  · simp [t.finish_of_refused _ _ done written, attempted]

end Attempts

namespace Chunked

variable {r : Chunked}

/-- Handling a chunk writes nothing. -/
theorem attempted_handle [Path.Evaluator] (r : Chunked) (number : Nat) (chunk : List Observation)
    (s : State κ) (t : Tally) :
    attempted (r.handle number chunk s t).1.events = attempted s.events := by
  have quiet : ∀ notes : List Journal.Entry,
      writes (notes.map (.noted : Journal.Entry → Event κ)) = [] := writes_noted id
  have refused : writes ((mapChunk r.params chunk).refused.map fun e =>
      (.noted e.entry : Event κ)) = [] := writes_noted _ _
  by_cases empty : (mapChunk r.params chunk).items.isEmpty = true
  · simp [handle, submit, empty, attempted, refused]
  · simp only [handle, submit, empty, attempted, Bool.false_eq_true, ↓reduceIte,
      State.events_record, writes_append, refused, List.append_nil]
    exact congrArg _ ((congrArg _ (quiet _)).trans (List.append_nil _))

/-- No count falls while a chunk is handled. -/
theorem atMost_handle [Path.Evaluator] (r : Chunked) (number : Nat) (chunk : List Observation)
    (s : State κ) (t : Tally) : t.counters.AtMost (r.handle number chunk s t).2.counters where
  total := Nat.le_of_eq (counts_handle r number chunk s t).total.symm
  processed := by
    rw [(counts_handle r number chunk s t).processed]
    exact Nat.le_add_right _ _
  failed := Nat.le_add_right _ _

theorem attempted_afterChunk (r : Chunked) (count number : Nat) (s : State κ) (t : Tally) :
    attempted (r.afterChunk count number s t).events =
      attempted s.events ++ if r.isDue number count then [t.counters.progress] else [] := by
  unfold afterChunk
  split
  · rw [Tally.attempted_writeProgress, attempted_note]
  · rw [attempted_note, List.append_nil]

/-- What the chunks write from a number `done` of them on: the counts after each chunk that is due, with
its number. They cover the chunks up to that number and never fall, from `start` to `final`. -/
structure Marked (r : Chunked) (chunks : List (List Observation)) (done : Nat)
    (start final : Counters) (marks : List (Nat × Counters)) : Prop where
  due : marks.map Prod.fst =
    (List.range' (done + 1) (chunks.length - done)).filter (r.isDue · chunks.length)
  covers : ∀ mark ∈ marks, mark.2.total = start.total ∧
    mark.2.processed + mark.2.failed = (chunks.take mark.1).flatten.length
  grows : (start :: (marks.map Prod.snd ++ [final])).Pairwise Counters.AtMost
  last : done < chunks.length → (marks.map Prod.snd).getLast? = some final

theorem marked_nil (r : Chunked) {chunks : List (List Observation)} {done : Nat}
    (none : chunks.length ≤ done) (c : Counters) : r.Marked chunks done c c [] where
  due := by simp [Nat.sub_eq_zero_of_le none]
  covers _ member := nomatch member
  grows := by simpa using Counters.AtMost.refl c
  last some := absurd some (Nat.not_lt.mpr none)

section Marked

variable {chunks : List (List Observation)} {done : Nat} {start next final : Counters}
  {marks : List (Nat × Counters)} (left : done < chunks.length)
  (later : r.Marked chunks (done + 1) next final marks) (more : start.AtMost next)
  (total : next.total = start.total)

include left later more total

/-- A chunk that is not due leaves no mark, and is not the last one. -/
theorem Marked.skip (idle : r.isDue (done + 1) chunks.length = false) :
    r.Marked chunks done start final marks where
  due := by
    have size : chunks.length - done = chunks.length - (done + 1) + 1 := by omega
    rw [later.due, size, List.range'_succ, List.filter_cons_of_neg (by simp [idle])]
  covers := total ▸ later.covers
  grows := by
    obtain ⟨above, grows⟩ := List.pairwise_cons.mp later.grows
    exact List.pairwise_cons.mpr ⟨fun c member => more.trans (above c member), grows⟩
  last _ := by
    have inner : done + 1 ≠ chunks.length := by
      intro same
      simp [isDue, same] at idle
    exact later.last (by omega)

/-- A chunk that is due leaves the counts after it. -/
theorem Marked.mark (due : r.isDue (done + 1) chunks.length = true)
    (settled : next.processed + next.failed = (chunks.take (done + 1)).flatten.length)
    (ends : done + 1 = chunks.length → next = final) :
    r.Marked chunks done start final ((done + 1, next) :: marks) where
  due := by
    have size : chunks.length - done = chunks.length - (done + 1) + 1 := by omega
    rw [List.map_cons, later.due, size, List.range'_succ, List.filter_cons_of_pos (by simp [due])]
  covers := List.forall_mem_cons.mpr ⟨⟨total, settled⟩, total ▸ later.covers⟩
  grows := by
    obtain ⟨above, _⟩ := List.pairwise_cons.mp later.grows
    refine List.pairwise_cons.mpr ⟨List.forall_mem_cons.mpr ⟨more, fun c member => ?_⟩, later.grows⟩
    exact more.trans (above c member)
  last _ := by
    rw [List.map_cons, List.getLast?_cons]
    by_cases inner : done + 1 < chunks.length
    · rw [later.last inner, Option.getD_some]
    · have none : marks = [] := by
        have due := later.due
        rwa [Nat.sub_eq_zero_of_le (by omega), List.range'_zero, List.filter_nil,
          List.map_eq_nil_iff] at due
      simp [none, ends (by omega)]

end Marked

/-- The chunks that are left write what is due of them, when the others have been counted. -/
theorem marked_handleAll [Path.Evaluator] (r : Chunked) {chunks left : List (List Observation)}
    {done : Nat} (rest : chunks.drop done = left) (s : State κ) {t : Tally}
    (settled : t.counters.processed + t.counters.failed = (chunks.take done).flatten.length) :
    ∃ marks, attempted (r.handleAll chunks.length (done + 1) left s t).1.events =
        attempted s.events ++ marks.map (·.2.progress) ∧
      r.Marked chunks done t.counters (r.handleAll chunks.length (done + 1) left s t).2.counters
        marks := by
  induction left generalizing done s t with
  | nil =>
    have none : chunks.length ≤ done := List.drop_eq_nil_iff.mp rest
    exact ⟨[], by simp [handleAll], marked_nil r none t.counters⟩
  | cons chunk others ih =>
    have inside : done < chunks.length := by
      have size := congrArg List.length rest
      simp only [List.length_drop, List.length_cons] at size
      omega
    have first : chunks[done] = chunk ∧ chunks.drop (done + 1) = others := by
      rw [List.drop_eq_getElem_cons inside] at rest
      exact List.cons.inj rest
    have counts := counts_handle r (done + 1) chunk s t
    have more := atMost_handle r (done + 1) chunk s t
    have quiet := attempted_handle r (done + 1) chunk s t
    rw [handleAll_cons]
    generalize r.handle (done + 1) chunk s t = handled at counts more quiet
    have next : handled.2.counters.processed + handled.2.counters.failed =
        (chunks.take (done + 1)).flatten.length := by
      rw [counts.settled, settled, List.take_succ_eq_append_getElem inside, first.1]
      simp
    obtain ⟨marks, written, later⟩ :=
      ih first.2 (r.afterChunk chunks.length (done + 1) handled.1 handled.2) next
    rw [attempted_afterChunk, quiet] at written
    cases due : r.isDue (done + 1) chunks.length with
    | false =>
      refine ⟨marks, by simpa [due] using written, later.skip inside more counts.total due⟩
    | true =>
      refine ⟨(done + 1, handled.2.counters) :: marks, by simpa [due] using written,
        later.mark inside more counts.total due next fun last => ?_⟩
      have none : others = [] := by
        rw [← first.2]
        exact List.drop_eq_nil_of_le (Nat.le_of_eq last.symm)
      rw [none]
      rfl

/-- The numbers of the chunks after which progress is due: the multiples of the interval, and the last
one. -/
def dueChunks (r : Chunked) (count : Nat) : List Nat :=
  (List.range' 1 ((count + r.chunkSize - 1) / r.chunkSize)).filter fun number =>
    r.interval ∣ number ∨ number = (count + r.chunkSize - 1) / r.chunkSize

theorem isDue_iff (r : Chunked) (number count : Nat) :
    r.isDue number count = true ↔ r.interval ∣ number ∨ number = count := by
  simp [isDue, Nat.dvd_iff_mod_eq_zero]

/-- What the chunks of a run write. -/
theorem marked_work [Path.Evaluator] (r : Chunked) (records : List Observation) (s : State κ) :
    ∃ marks, attempted (r.work records s).1.events =
        attempted s.events ++ marks.map (·.2.progress) ∧
      r.Marked (pieces r.chunkSize records) 0 (.ofTotal records.length)
        (r.work records s).2.counters marks := by
  have all : (pieces r.chunkSize records).drop 0 = pieces r.chunkSize records := List.drop_zero
  obtain ⟨marks, written, marked⟩ := marked_handleAll r all
    (s.note (r.startedEntry records.length))
    (t := .start records.length r.settings.maxRetainedErrors) rfl
  rw [attempted_note] at written
  exact ⟨marks, written, marked⟩

/-- A run that begins asks for these writes and no others, in this order: the one that starts it, with
the number of its records; progress after each chunk whose number is a multiple of the interval and
after the last chunk, covering the records of the chunks up to there; and the one that finishes it. No
count falls from one write to the next, and if there are records, the last progress already has the
counts of the end. Accepted or refused, progress is asked for all the same; a run that cannot begin asks
for its first write alone. -/
theorem run_writes_on_cadence [Path.Evaluator] (r : Chunked) (records : List Observation)
    (s : State κ) :
    (∃ (row : Action) (marks : List (Nat × Counters)) (o : Outcome),
      (s.write r.site (.started records.length)).2 = .ok row ∧
      attempted (r.run records s).1.events = attempted s.events ++
        .started records.length :: (marks.map (·.2.progress) ++ [Tally.finalWrite r.site.now o]) ∧
      marks.map Prod.fst = r.dueChunks records.length ∧
      (∀ mark ∈ marks, mark.2.total = records.length ∧
        mark.2.processed + mark.2.failed = min (mark.1 * r.chunkSize) records.length) ∧
      (Counters.ofTotal records.length :: (marks.map Prod.snd ++ [counted o])).Pairwise
        Counters.AtMost ∧
      (records ≠ [] → (marks.map Prod.snd).getLast? = some (counted o))) ∨
    ∃ e, (s.write r.site (.started records.length)).2 = .error e ∧
      (r.run records s).2 = .error e ∧
      attempted (r.run records s).1.events = attempted s.events ++ [.started records.length] := by
  have asked := attempted_write s r.site (.started records.length)
  rcases s.write_cases r.site (.started records.length) with ⟨row, _, _, written⟩ | ⟨e, written⟩
  · left
    generalize row.accept (.started records.length) r.site.now = row,
      s.accepted r.site.key _ (.started records.length) = begun at written
    rw [written] at asked
    obtain ⟨marks, worked, marked⟩ := marked_work r records begun
    refine ⟨row, marks, (r.work records begun).2.outcome
      (headline (r.work records begun).2.counters) r.summary, by rw [written], ?_, ?_, ?_,
      marked.grows, ?_⟩
    · rw [run_of_started written, Tally.attempted_finish, worked, asked]
      simp
    · rw [marked.due, dueChunks, length_pieces r.chunkSize_pos, Nat.sub_zero]
      exact List.filter_congr fun number _ => by
        rw [Bool.eq_iff_iff, isDue_iff, decide_eq_true_iff]
    · intro mark member
      obtain ⟨total, covered⟩ := marked.covers mark member
      rw [flatten_take_pieces r.chunkSize_pos, List.length_take] at covered
      exact ⟨total, covered⟩
    · intro nonempty
      refine marked.last ?_
      rw [pieces_of_ne_nil r.chunkSize_pos nonempty]
      exact Nat.zero_lt_succ _
  · right
    rw [written] at asked
    rw [run_of_refused written, written]
    exact ⟨e, rfl, rfl, asked⟩

end Chunked

end BulkActions.Run
