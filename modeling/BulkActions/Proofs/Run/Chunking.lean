import BulkActions.Proofs.Run.Submissions

/-! Two chunked runs over one list of records. Where the sink decides about each item alone, the size
of the chunks, the interval of the progress and the caps on error lines make no difference to what a
run comes to: both runs are compared with the items of the records. -/

namespace BulkActions.Run

open Dataset Job

variable {κ μ : Type}

/-- Each item is accepted or not for itself, and a report counts those that were. What else it says
is left open. -/
def Sink.Judges (sink : Sink) (accepts : Item → Bool) : Prop :=
  ∀ number items, ∃ report, sink number items = .ok report ∧
    report.successCount = items.countP accepts

/-- However the items are spread over calls, those are created that are accepted. -/
theorem Sink.Judges.created_eq {sink : Sink} {accepts : Item → Bool} (judges : sink.Judges accepts)
    (first : Nat) (calls : List SinkCall) :
    sink.created first calls = (calls.flatMap SinkCall.items).countP accepts := by
  induction calls generalizing first with
  | nil => rfl
  | cons call rest ih =>
    obtain ⟨report, answered, counted⟩ := judges first call.items
    have own : min report.successCount call.items.length = call.items.countP accepts := by
      rw [counted]
      exact Nat.min_eq_left List.countP_le_length
    simp only [created, answered, own, ih, List.flatMap_cons, List.countP_append]

namespace Chunked

/-- The first write of a run is accepted. -/
def Begins (r : Chunked) (records : List Observation) (s : State κ) : Prop :=
  ∃ row, (s.write r.site (.started records.length)).2 = .ok row

variable {r q : Chunked} {records : List Observation} {s : State κ} {t : State μ}

theorem begins_of_ready (ready : Ready r.site s.store) : r.Begins records s := by
  obtain ⟨row, written, _⟩ := State.write_started ready records.length
  exact ⟨row, by rw [written]⟩

section Runs

variable [Path.Evaluator]

theorem run_of_begins (begins : r.Begins records s) :
    r.run records s =
      (r.work records (s.write r.site (.started records.length)).1).2.finish r.site
        (headline (r.work records (s.write r.site (.started records.length)).1).2.counters) r.summary
        r.done (r.work records (s.write r.site (.started records.length)).1).1 := by
  obtain ⟨row, accepted⟩ := begins
  exact run_of_started (Prod.ext rfl accepted)

/-- A run that begins counts every record once, and what the sink creates of its calls as
processed. -/
theorem concludes_of_begins (begins : r.Begins records s) :
    ∃ o, Concludes r.site.now (r.run records s) o ∧
      submissions (r.run records s).1.events = submissions s.events ++ r.callsFor records ∧
      o.status = .ofCounts o.processed o.failed ∧ o.total = records.length ∧
      o.processed = r.sink.created s.submissions (r.callsFor records) ∧
      o.processed + o.failed = records.length := by
  rcases submissions_run r records s with ⟨_, _, submitted⟩ | ⟨e, refused, _⟩
  · have counts := counts_work r records (s.write r.site (.started records.length)).1
    have processed := counts.processed
    have settled := counts.settled
    rw [s.submissions_write] at processed
    simp only [Tally.start, Counters.ofTotal, Nat.zero_add] at processed settled
    rw [run_of_begins begins] at submitted ⊢
    exact ⟨_, Tally.concludes_finish _ _ _ _ _ _, submitted, rfl, counts.total, processed, settled⟩
  · obtain ⟨row, accepted⟩ := begins
    rw [accepted] at refused
    cases refused

/-- In front of a sink that decides about each item alone, the records are processed whose items it
accepts. -/
theorem processed_of_judges {accepts : Item → Bool} (judges : r.sink.Judges accepts)
    (records : List Observation) (first : Nat) :
    r.sink.created first (r.callsFor records) =
      ((records.filter r.maps).map r.itemFor).countP accepts := by
  rw [judges.created_eq, items_callsFor]

/-- Two runs of the same records and parameters, in front of sinks that accept the same items, report
the same status and counts and submit the same items in the same order, whatever the sizes of their
chunks, the intervals of their progress writes and their caps. -/
theorem chunking_keeps_result {accepts : Item → Bool} (same : r.params = q.params)
    (judges : r.sink.Judges accepts) (alike : q.sink.Judges accepts)
    (begins : r.Begins records s) (starts : q.Begins records t) :
    ∃ o p calls others,
      Concludes r.site.now (r.run records s) o ∧ Concludes q.site.now (q.run records t) p ∧
      o.status = p.status ∧ o.total = p.total ∧ o.processed = p.processed ∧ o.failed = p.failed ∧
      submissions (r.run records s).1.events = submissions s.events ++ calls ∧
      submissions (q.run records t).1.events = submissions t.events ++ others ∧
      calls.flatMap SinkCall.items = others.flatMap SinkCall.items ∧
      calls.flatMap SinkCall.items = (records.filter r.maps).map r.itemFor ∧
      o.total = records.length ∧ o.processed + o.failed = o.total ∧
      o.processed = ((records.filter r.maps).map r.itemFor).countP accepts := by
  obtain ⟨o, reports, submitted, status, total, created, settled⟩ := concludes_of_begins begins
  obtain ⟨p, answers, handed, outcome, length, made, balanced⟩ := concludes_of_begins starts
  have maps : r.maps = q.maps := by
    funext record
    simp only [Chunked.maps, same]
  have itemFor : r.itemFor = q.itemFor := by
    funext record
    simp only [Chunked.itemFor, same]
  have items : (r.callsFor records).flatMap SinkCall.items =
      (q.callsFor records).flatMap SinkCall.items := by
    rw [items_callsFor, items_callsFor, maps, itemFor]
  have sameProcessed : o.processed = p.processed := by
    rw [created, made, judges.created_eq, alike.created_eq, items]
  have sameFailed : o.failed = p.failed := by omega
  have sameStatus : o.status = p.status := by rw [status, outcome, sameProcessed, sameFailed]
  exact ⟨o, p, _, _, reports, answers, sameStatus, total.trans length.symm, sameProcessed, sameFailed,
    submitted, handed, items, items_callsFor r records, total, settled.trans total.symm,
    created.trans (processed_of_judges judges records s.submissions)⟩

end Runs

/-- Accepts what the first observation gives, and reports no fault of the others. -/
def pickySink : Sink := fun _ items =>
  .ok ⟨false, items.countP (·.sourceObservationId = "o1"), 0, []⟩

theorem judges_pickySink : pickySink.Judges (·.sourceObservationId = "o1") :=
  fun _ _ => ⟨_, rfl, rfl⟩

/-- The sample run in front of that sink, in chunks of one record and in chunks of two. -/
def narrowRun : Chunked := { sampleRun with settings := { chunkSize := 1 }, sink := pickySink }

def wideRun : Chunked := { sampleRun with sink := pickySink }

theorem chunking_keeps_result_picky :
    narrowRun.params = wideRun.params ∧
    narrowRun.sink.Judges (·.sourceObservationId = "o1") ∧
    wideRun.sink.Judges (·.sourceObservationId = "o1") ∧
    narrowRun.Begins sampleRecords (.ofStore sampleStore : State Unit) ∧
    wideRun.Begins sampleRecords (.ofStore sampleStore : State Unit) ∧
    ∃ o p calls others,
      Concludes narrowRun.site.now
        (narrowRun.run sampleRecords (.ofStore sampleStore : State Unit)) o ∧
      Concludes wideRun.site.now
        (wideRun.run sampleRecords (.ofStore sampleStore : State Unit)) p ∧
      o.status = p.status ∧ o.total = p.total ∧ o.processed = p.processed ∧ o.failed = p.failed ∧
      submissions (narrowRun.run sampleRecords (.ofStore sampleStore : State Unit)).1.events =
        calls ∧
      submissions (wideRun.run sampleRecords (.ofStore sampleStore : State Unit)).1.events =
        others ∧
      calls.flatMap SinkCall.items = others.flatMap SinkCall.items ∧
      o.total = 3 ∧ o.processed + o.failed = 3 ∧ o.processed = 1 := by
  have ready : Ready sampleSite (State.ofStore sampleStore : State Unit).store := ready_sample
  have begins : narrowRun.Begins sampleRecords (.ofStore sampleStore : State Unit) :=
    begins_of_ready ready
  have starts : wideRun.Begins sampleRecords (.ofStore sampleStore : State Unit) :=
    begins_of_ready ready
  obtain ⟨o, p, calls, others, reports, answers, status, total, processed, failed, submitted, handed,
    items, _, length, settled, accepted⟩ :=
    chunking_keeps_result (r := narrowRun) (q := wideRun) rfl judges_pickySink judges_pickySink
      begins starts
  exact ⟨rfl, judges_pickySink, judges_pickySink, begins, starts, o, p, calls, others, reports,
    answers, status, total, processed, failed, submitted, handed, items, length,
    settled.trans length, accepted.trans rfl⟩

end Chunked

end BulkActions.Run
