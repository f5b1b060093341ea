import BulkActions.Proofs.Run.Lines

/-! Two runs over one stream. How the stream is cut into batches, how many records are under way at
once and which of them end first make no difference to what a run comes to, as long as the operation
comes to the same for each record: both runs are compared with the items of the stream. -/

namespace BulkActions.Run

open Job

variable {ρ κ μ : Type}

namespace Streamed

/-- What the operation comes to depends on the record alone. -/
def Settles (r : Streamed ρ κ) (verdict : ρ → Option Error) : Prop :=
  ∀ index record, (r.operation.task index record).failure = verdict record

variable {r : Streamed ρ κ} {q : Streamed ρ μ} {verdict : ρ → Option Error}

theorem Settles.verdict_eq (settles : r.Settles verdict) : r.verdict = fun _ => verdict := by
  funext index record
  exact settles index record

/-- While they are no more than there is room for, a run retains the lines of all failed items. -/
theorem Settles.perm_retained (settles : r.Settles verdict) {stream : List (StreamItem ρ)}
    {s : State κ}
    (room : streamErrors stream + r.failures 0 stream ≤ r.settings.maxRetainedErrors) :
    (r.retained stream s).Perm (failedLines (fun _ => verdict) 0 stream) := by
  obtain ⟨lines, same, kept⟩ := retained_eq_take r stream s
  have all : lines.length ≤ r.settings.maxRetainedErrors := by
    rw [same.length_eq, length_failedLines]
    exact room
  rw [kept, List.take_of_length_le all, ← settles.verdict_eq]
  exact same

/-- Two runs over one stream whose operations come to the same for each record report the same
status and counts, whatever their batches, limits and durations. If both have room for it, they
retain the same error lines up to order: one for each failed item. -/
theorem tuning_keeps_result (settles : r.Settles verdict) (alike : q.Settles verdict)
    {s : State κ} {t : State μ} (begins : r.Begins s) (starts : q.Begins t)
    (stream : List (StreamItem ρ)) :
    ∃ o p, r.Reports stream s o ∧ q.Reports stream t p ∧
      o.status = p.status ∧ o.total = p.total ∧ o.processed = p.processed ∧ o.failed = p.failed ∧
      o.failed = (failedLines (fun _ => verdict) 0 stream).length ∧
      (o.failed ≤ r.settings.maxRetainedErrors → p.failed ≤ q.settings.maxRetainedErrors →
        (r.retained stream s).Perm (q.retained stream t) ∧
        (r.retained stream s).Perm (failedLines (fun _ => verdict) 0 stream)) := by
  obtain ⟨o, reports, status, total, processed, failed⟩ := reports_of_begins begins stream
  obtain ⟨p, answers, outcome, length, succeeded, refused⟩ := reports_of_begins starts stream
  have sameTotal : o.total = p.total := by rw [total, length]
  have sameProcessed : o.processed = p.processed := by
    rw [processed, succeeded, successes_eq, successes_eq, settles.verdict_eq, alike.verdict_eq]
  have sameFailed : o.failed = p.failed := by
    rw [failed, refused, ← length_failedLines, ← length_failedLines, settles.verdict_eq,
      alike.verdict_eq]
  have sameStatus : o.status = p.status := by rw [status, outcome, sameProcessed, sameFailed]
  refine ⟨o, p, reports, answers, sameStatus, sameTotal, sameProcessed, sameFailed, ?_, ?_⟩
  · rw [failed, ← length_failedLines, settles.verdict_eq]
  · intro room space
    have own := settles.perm_retained (s := s) (failed ▸ room)
    have other := alike.perm_retained (s := t) (refused ▸ space)
    exact ⟨own.trans other.symm, own⟩

/-- The records of the sample run one at a time, in longer batches, each taking as long as its
position says. -/
def steadyRun : Streamed Nat String where
  site := sampleSite
  operation := ⟨"wait", fun index record =>
    ⟨[("wait", index)], if record = 0 then some (.sink "zero") else none, []⟩⟩
  settings := { batchSize := 3, maxConcurrency := 1, maxRetainedErrors := 5 }
  summary := {}

def zeroFails (record : Nat) : Option Error := if record = 0 then some (.sink "zero") else none

theorem tuning_keeps_result_steady :
    sampleRun.Settles zeroFails ∧ steadyRun.Settles zeroFails ∧
    sampleRun.Begins (.ofStore sampleStore) ∧ steadyRun.Begins (.ofStore sampleStore) ∧
    ∃ o p, sampleRun.Reports sampleStream (.ofStore sampleStore) o ∧
      steadyRun.Reports sampleStream (.ofStore sampleStore) p ∧
      o.status = p.status ∧ o.total = p.total ∧ o.processed = p.processed ∧ o.failed = p.failed ∧
      o.failed = 2 ∧
      (sampleRun.retained sampleStream (.ofStore sampleStore)).Perm
        (steadyRun.retained sampleStream (.ofStore sampleStore)) ∧
      (sampleRun.retained sampleStream (.ofStore sampleStore)).Perm
        ["Record 2: Selection error: gone", "Record 3: Sink error: zero"] := by
  have first : sampleRun.Settles zeroFails := fun _ _ => rfl
  have second : steadyRun.Settles zeroFails := fun _ _ => rfl
  have begins : sampleRun.Begins (.ofStore sampleStore) := begins_of_ready ready_sample
  have starts : steadyRun.Begins (.ofStore sampleStore) := begins_of_ready ready_sample
  obtain ⟨o, p, reports, answers, status, total, processed, failed, two, lines⟩ :=
    tuning_keeps_result first second begins starts sampleStream
  have counted : o.failed = 2 := two
  obtain ⟨alike, own⟩ := lines (by rw [counted]; decide) (by rw [← failed, counted]; decide)
  exact ⟨first, second, begins, starts, o, p, reports, answers, status, total, processed, failed,
    counted, alike, own⟩

end Streamed

end BulkActions.Run
