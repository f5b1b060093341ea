import BulkActions.Proofs.Run.Samples
import BulkActions.Proofs.Run.Schedule

/-! The error lines of a streamed run and the outcome it reports. Lines are kept in the order in
which errors come up, but each has the position of its own item, so all of them together are the
lines of the stream in some order. -/

namespace BulkActions.Run

open Job

variable {ρ κ : Type}

/-- The error line of a record whose work ended. -/
def failureLine (result : Nat × Option Error) : Option String :=
  result.2.map (recordLine result.1)

theorem Tally.samples_complete (t : Tally) (completed : List (Nat × Option Error)) :
    (completed.foldl Tally.complete t).samples =
      t.samples.pushAll (completed.filterMap failureLine) := by
  induction completed generalizing t with
  | nil => rfl
  | cons result rest ih =>
    obtain ⟨index, failure⟩ := result
    rw [List.foldl_cons, ih]
    cases failure <;> rfl

/-- What an item fails with: an error of the stream with itself, a record by its verdict. -/
def itemFailure (verdict : Nat → ρ → Option Error) : StreamItem ρ × Nat → Option Error
  | (.error e, _) => some e
  | (.ok record, index) => verdict index record

/-- One line for each failed item, with its position; the items are numbered from `first` on. -/
def failedLines (verdict : Nat → ρ → Option Error) (first : Nat) (items : List (StreamItem ρ)) :
    List String :=
  (items.zipIdx first).filterMap fun numbered =>
    (itemFailure verdict numbered).map (recordLine numbered.2)

theorem failedLines_cons (verdict : Nat → ρ → Option Error) (first : Nat) (item : StreamItem ρ)
    (rest : List (StreamItem ρ)) :
    failedLines verdict first (item :: rest) =
      ((itemFailure verdict (item, first)).map (recordLine first)).toList ++
        failedLines verdict (first + 1) rest := by
  rw [failedLines, List.zipIdx_cons, List.filterMap_cons]
  cases itemFailure verdict (item, first) <;> rfl

theorem failedLines_append (verdict : Nat → ρ → Option Error) (first : Nat)
    (earlier later : List (StreamItem ρ)) :
    failedLines verdict first (earlier ++ later) =
      failedLines verdict first earlier ++ failedLines verdict (first + earlier.length) later := by
  simp [failedLines, List.zipIdx_append]

namespace Streamed

variable {r : Streamed ρ κ}

theorem length_failedLines (r : Streamed ρ κ) (first : Nat) (items : List (StreamItem ρ)) :
    (failedLines r.verdict first items).length = streamErrors items + r.failures first items := by
  induction items generalizing first with
  | nil => rfl
  | cons item rest ih =>
    rw [failedLines_cons, List.length_append, ih]
    cases item with
    | error e =>
      simp only [itemFailure, Option.map_some, Option.toList_some, List.length_singleton,
        streamErrors_cons_error, failures, ending_cons_error]
      omega
    | ok record =>
      simp only [itemFailure, verdict, failures, streamErrors_cons_ok, ending_cons_ok]
      cases (r.operation.task first record).failure with
      | none => simp
      | some e =>
        simp only [Option.map_some, Option.toList_some, List.length_singleton, Option.isSome_some,
          ↓reduceIte]
        omega

/-- The lines of a batch: those of the stream's errors come first, and those of failed records as
their work ends. -/
theorem perm_failedLines (r : Streamed ρ κ) (first : Nat) (items : List (StreamItem ρ)) :
    (streamErrorLines first items ++
      ((tasksOf r.operation first items).map Pool.Waiting.result).filterMap failureLine).Perm
        (failedLines r.verdict first items) := by
  induction items generalizing first with
  | nil => exact .refl _
  | cons item rest ih =>
    rw [failedLines_cons]
    cases item with
    | error e => exact (ih (first + 1)).cons _
    | ok record =>
      simp only [streamErrorLines, tasksOf, List.map_cons, List.filterMap_cons, Pool.Waiting.result,
        failureLine, itemFailure, verdict]
      cases (r.operation.task first record).failure with
      | none => exact ih (first + 1)
      | some e => exact List.perm_middle.trans ((ih (first + 1)).cons _)

theorem samples_handle (r : Streamed ρ κ) (batch : List (StreamItem ρ)) (s : State κ) (t : Tally) :
    ∃ lines : List String, lines.Perm (failedLines r.verdict t.counters.total batch) ∧
      (r.handle batch s t).2.samples = t.samples.pushAll lines := by
  have ended := Pool.completions_run r.concurrency_pos
    (nodup_tasksOf r.operation t.counters.total batch)
  refine ⟨_, ((ended.filterMap failureLine).append_left _).trans
    (perm_failedLines r t.counters.total batch), ?_⟩
  rw [Samples.pushAll_append]
  exact Tally.samples_complete _ _

theorem samples_handleAll (r : Streamed ρ κ) (number : Nat) (batches : List (List (StreamItem ρ)))
    (s : State κ) (t : Tally) :
    ∃ lines : List String, lines.Perm (failedLines r.verdict t.counters.total batches.flatten) ∧
      (r.handleAll number batches s t).2.samples = t.samples.pushAll lines := by
  induction batches generalizing number s t with
  | nil => exact ⟨[], .refl _, rfl⟩
  | cons batch rest ih =>
    -- The positions of the later batches follow from the total, which has grown by this batch.
    obtain ⟨own, ownLines, kept⟩ := samples_handle r batch s t
    obtain ⟨later, laterLines, keptAll⟩ := ih (number + 1)
      ((r.handle batch s t).2.writeProgress r.site (r.progressLost number)
        ((r.handle batch s t).1.note (r.batchDone number (r.handle batch s t).2.counters)))
      (r.handle batch s t).2
    rw [total_handle] at laterLines
    rw [List.flatten_cons, failedLines_append]
    refine ⟨own ++ later, ownLines.append laterLines, ?_⟩
    rw [handleAll_cons, keptAll, kept, Samples.pushAll_append]

/-- The first write of a run is accepted. -/
def Begins (r : Streamed ρ κ) (s : State κ) : Prop :=
  ∃ row, (s.write r.site (.started 0)).2 = .ok row

theorem begins_of_ready {s : State κ} (ready : Ready r.site s.store) : r.Begins s := by
  obtain ⟨row, written, _⟩ := State.write_started ready 0
  exact ⟨row, by rw [written]⟩

/-- What a run has counted and kept when all batches are done. -/
def tally (r : Streamed ρ κ) (stream : List (StreamItem ρ)) (s : State κ) : Tally :=
  (r.work stream (s.write r.site (.started 0)).1).2

/-- The error lines a run retains. -/
def retained (r : Streamed ρ κ) (stream : List (StreamItem ρ)) (s : State κ) : List String :=
  (r.tally stream s).samples.lines

/-- The last write of a run asks for this outcome, whose log is made of the retained lines; unless
the write is refused, the run reports the outcome. -/
structure Reports (r : Streamed ρ κ) (stream : List (StreamItem ρ)) (s : State κ) (o : Outcome) :
    Prop where
  answer : ∃ refusal,
    (writes (r.run stream s).1.events).getLast? = some (Tally.finalWrite r.site.now o, refusal) ∧
      (r.run stream s).2 = match refusal with
        | none => .ok o
        | some e => .error e
  log : o.log = Run.summary o.failed (r.headline ⟨o.total, o.processed, o.failed⟩)
    ⟨r.retained stream s, r.settings.maxRetainedErrors⟩ r.summary

theorem samples_tally (r : Streamed ρ κ) (stream : List (StreamItem ρ)) (s : State κ) :
    ∃ lines : List String, lines.Perm (failedLines r.verdict 0 stream) ∧ (r.tally stream s).samples =
      (Samples.empty r.settings.maxRetainedErrors).pushAll lines := by
  have handled := samples_handleAll r 1 (pieces r.batchSize stream)
    ((s.write r.site (.started 0)).1.note r.startedEntry) (.start 0 r.settings.maxRetainedErrors)
  rwa [flatten_pieces r.batchSize_pos] at handled

/-- A run retains the first of its error lines, which together are those of the failed items. -/
theorem retained_eq_take (r : Streamed ρ κ) (stream : List (StreamItem ρ)) (s : State κ) :
    ∃ lines : List String, lines.Perm (failedLines r.verdict 0 stream) ∧
      r.retained stream s = lines.take r.settings.maxRetainedErrors := by
  obtain ⟨lines, same, kept⟩ := samples_tally r stream s
  refine ⟨lines, same, ?_⟩
  rw [retained, kept, Samples.lines_pushAll _ _ (Nat.zero_le _)]
  rfl

/-- A run that begins ends with the counts of its stream. -/
theorem reports_of_begins {s : State κ} (begins : r.Begins s) (stream : List (StreamItem ρ)) :
    ∃ o, r.Reports stream s o ∧ o.status = .ofCounts o.processed o.failed ∧
      o.total = stream.length ∧ o.processed = r.successes 0 stream ∧
      o.failed = streamErrors stream + r.failures 0 stream := by
  obtain ⟨row, accepted⟩ := begins
  have counted : (r.tally stream s).counters = r.count 0 stream := counters_work r stream _
  obtain ⟨refusal, last, answer⟩ := (r.tally stream s).concludes_finish r.site
    (r.headline (r.tally stream s).counters) r.summary r.done
    (r.work stream (s.write r.site (.started 0)).1).1
  have started : s.write r.site (.started 0) = ((s.write r.site (.started 0)).1, .ok row) :=
    Prod.ext rfl accepted
  refine ⟨(r.tally stream s).outcome (r.headline (r.tally stream s).counters) r.summary, ⟨⟨refusal,
    ?_, ?_⟩, rfl⟩, rfl, congrArg Counters.total counted, congrArg Counters.processed counted,
    congrArg Counters.failed counted⟩
  · rw [run_of_started started]
    exact last
  · rw [run_of_started started]
    exact answer

end Streamed

end BulkActions.Run
