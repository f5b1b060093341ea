import BulkActions.Proofs.Job.Terminal
import BulkActions.Proofs.Run.Processor

/-! What remains of the row of a job when any of the writes of a run may be lost. Progress changes
nothing but the counts of the row; so a run leaves the row as it was, or being worked on, or with the
outcome that it reports. -/

namespace BulkActions.Run

open Dataset Job

variable {κ : Type}

/-- The job's row is there and has this property. -/
def Holds (site : Site) (motive : Action → Prop) (store : Store) : Prop :=
  ∃ row, store.find site.key = some row ∧ motive row

/-- Accepted progress does not take this property from a row. -/
def KeptByProgress (now : Instant) (motive : Action → Prop) : Prop :=
  ∀ row total processed failed, row.Admits (.progress total processed failed) → motive row →
    motive (row.accept (.progress total processed failed) now)

/-- The row of a job that is being worked on since it was `row`: its counts may be any. -/
structure BegunFrom (row next : Action) : Prop where
  follows : row.Precedes next
  processing : next.status = .processing
  log : next.log = row.log

theorem keptByProgress_begunFrom (now : Instant) (row : Action) :
    KeptByProgress now (BegunFrom row) := by
  intro next total processed failed admitted begun
  have kept := next.endsLike_accept_progress total processed failed now
  exact ⟨begun.follows.trans (admitted.precedes now), kept.status.trans begun.processing,
    kept.log.trans begun.log⟩

theorem BegunFrom.accept_started {row : Action} {total : Nat} (admitted : row.Admits (.started total))
    (now : Instant) : BegunFrom row (row.accept (.started total) now) :=
  ⟨admitted.precedes now, rfl, rfl⟩

section Work

variable {site : Site} {motive : Action → Prop} {s : State κ}

theorem Tally.holds_writeProgress (kept : KeptByProgress site.now motive) (t : Tally)
    (lost : Error → Journal.Entry) (holds : Holds site motive s.store) :
    Holds site motive (t.writeProgress site lost s).store := by
  obtain ⟨row, found, has⟩ := holds
  rcases s.write_cases site t.counters.progress with
    ⟨present, same, admitted, written⟩ | ⟨e, written⟩
  · rw [t.writeProgress_of_accepted lost written]
    cases Option.some.inj (found.symm.trans same)
    exact ⟨_, State.find_accepted _ _ _ _, kept row _ _ _ admitted has⟩
  · rw [t.writeProgress_of_refused lost written]
    exact ⟨row, found, has⟩

theorem steady_holds (kept : KeptByProgress site.now motive) (limit : Nat) :
    Steady site limit fun s : State κ => Holds site motive s.store where
  submitted := id
  record _ := id
  progress t lost _ holds := Tally.holds_writeProgress kept t lost holds

theorem Runner.holds_work [Path.Evaluator] {ρ : Type} {r : Runner ρ κ}
    (kept : KeptByProgress r.site.now motive) (holds : Holds r.site motive s.store) :
    Holds r.site motive (r.work s).1.store :=
  steady_work (steady_holds kept r.size) holds (Nat.le_refl _)

end Work

/-- What a run leaves of the row of its job. A run that ends with an error has not touched the row,
or leaves it to be worked on again; one that reports an outcome has stored it. The log is that of
the outcome, or else the one that was there. -/
inductive Leaves (site : Site) (row : Action) (limit : Nat) :
    State κ × Except Error Outcome → Prop where
  | untouched {s : State κ} {e : Error} (same : s.store.find site.key = some row) :
      Leaves site row limit (s, .error e)
  | underway {s : State κ} {e : Error} {next : Action}
      (found : s.store.find site.key = some next) (begun : BegunFrom row next) :
      Leaves site row limit (s, .error e)
  | ended {s : State κ} {o : Outcome} {next : Action}
      (found : s.store.find site.key = some next) (follows : row.Precedes next)
      (stored : next.outcome = { o with log := o.log.or row.log })
      (status : o.status = .ofCounts o.processed o.failed)
      (bounded : ∀ log, o.log = some log → log.length ≤ limit) :
      Leaves site row limit (s, .ok o)

section Ends

variable {site : Site} {row : Action} {s : State κ}

/-- The last write is accepted and stores the outcome, or leaves the row to be worked on again. -/
theorem Tally.leaves_finish (holds : Holds site (BegunFrom row) s.store) (t : Tally)
    (headline : String) (settings : SummarySettings) (done : Outcome → Journal.Entry) :
    Leaves site row settings.maxLogChars (t.finish site headline settings done s) := by
  obtain ⟨next, found, begun⟩ := holds
  rcases s.write_cases site (finalWrite site.now (t.outcome headline settings)) with
    ⟨present, same, admitted, written⟩ | ⟨e, written⟩
  · rw [t.finish_of_accepted _ _ done written]
    cases Option.some.inj (found.symm.trans same)
    have follows := begun.follows.trans (admitted.precedes site.now)
    refine .ended (State.find_accepted _ _ _ _) follows ?_ rfl fun log => length_le_of_summary
    simp [Action.outcome, Action.accept, Action.nextStatus, Action.nextTotal, Action.nextProcessed,
      Action.nextFailed, finalWrite, Update.finished, begun.log]
  · rw [t.finish_of_refused _ _ done written]
    exact .underway found begun

/-- How long the log of a run may become. -/
def Runner.maxLogChars {ρ : Type} : Runner ρ κ → Nat
  | .chunked r _ => r.summary.maxLogChars
  | .streamed r _ => r.summary.maxLogChars

theorem Runner.leaves_run [Path.Evaluator] {ρ : Type} (r : Runner ρ κ)
    (found : s.store.find r.site.key = some row) :
    Leaves r.site row r.maxLogChars (r.run s) := by
  rcases r.run_cases s with ⟨present, same, admitted, ran⟩ | ⟨e, ran⟩
  · rw [ran]
    cases Option.some.inj (found.symm.trans same)
    have begun : BegunFrom row (row.accept r.opening r.site.now) := by
      cases r <;> exact .accept_started admitted _
    have starts : Holds r.site (BegunFrom row)
        (s.accepted r.site.key (row.accept r.opening r.site.now) r.opening).store :=
      ⟨_, State.find_accepted _ _ _ _, begun⟩
    have worked := holds_work (keptByProgress_begunFrom r.site.now row) starts
    cases r with
    | chunked r records => exact Tally.leaves_finish worked _ _ _ _
    | streamed r stream => exact Tally.leaves_finish worked _ _ _ _
  · rw [ran]
    exact .untouched found

end Ends

namespace Processor

/-- The row of a job that could not start, for this reason. -/
def rowFailed (p : Processor) (a : Action) (reason : String) : Action :=
  a.accept (.failedBeforeStart reason p.site.now) p.site.now

/-- What processing a job leaves of its row: a finished job is left alone, one that is barred keeps
its counts and takes the reason as its log, and any other has run. -/
inductive Leaves (p : Processor) (a : Action) : Result → Prop where
  | untouched {s : State ScheduleCall} {e : Error} (same : s.store.find p.site.key = some a) :
      p.Leaves a (s, .error e)
  | skipped {s : State ScheduleCall} (terminal : a.status.isTerminal = true)
      (same : s.store.find p.site.key = some a) : p.Leaves a (s, .ok none)
  | failed {s : State ScheduleCall} {reason : String} (barred : p.Barred a reason)
      (follows : a.Precedes (p.rowFailed a reason))
      (found : s.store.find p.site.key = some (p.rowFailed a reason)) :
      p.Leaves a (s, .ok (some (p.rowFailed a reason).outcome))
  | ran {result : State ScheduleCall × Except Error Outcome}
      (free : ∀ reason, ¬ p.Barred a reason)
      (left : Run.Leaves p.site a p.settings.summary.maxLogChars result) :
      p.Leaves a (ofRun result)

variable {p : Processor} {a : Action} {s : State ScheduleCall}

/-- An outcome is that of a job that could not start, or of a run. -/
theorem Leaves.of_outcome {o : Outcome} (left : p.Leaves a (s, .ok (some o))) :
    (∃ reason, p.Barred a reason ∧ s.store.find p.site.key = some (p.rowFailed a reason) ∧
      o = (p.rowFailed a reason).outcome) ∨
    ((∀ reason, ¬ p.Barred a reason) ∧
      Run.Leaves p.site a p.settings.summary.maxLogChars (s, .ok o)) := by
  generalize reported : (s, Except.ok (some o)) = result at left
  cases left with
  | untouched _ => cases reported
  | skipped _ _ => cases reported
  | failed barred _ found =>
    cases reported
    exact .inl ⟨_, barred, found, rfl⟩
  | @ran result free left =>
    obtain ⟨s', answer⟩ := result
    cases answer with
    | error e => cases reported
    | ok o' =>
      cases reported
      exact .inr ⟨free, left⟩

variable (own : p.site.key = ⟨a.projectId, a.id⟩)

include own

theorem leaves_failBeforeStart {reason : String} (barred : p.Barred a reason)
    (found : s.store.find p.site.key = some a) : p.Leaves a (p.failBeforeStart a reason s) := by
  have kept : ((s.note (failedEntry a reason)).note (Journal.fault "batch_action_processor"
      "process" reason (some a.id))).store.find p.site.key = some a := found
  rcases State.write_cases _ p.site (.failedBeforeStart reason p.site.now) with
    ⟨present, same, admitted, written⟩ | ⟨e, written⟩
  · cases Option.some.inj (kept.symm.trans same)
    rw [State.write, own] at written
    simp only [failBeforeStart, written]
    refine .failed barred (admitted.precedes _) ?_
    rw [own]
    exact State.find_accepted _ _ _ _
  · rw [State.write, own] at written
    simp only [failBeforeStart, written]
    exact .untouched kept

theorem leaves_start [Path.Evaluator] (found : s.store.find p.site.key = some a) :
    p.Leaves a (p.start a s) := by
  rcases p.barred_or_starts a with ⟨reason, barred⟩ | starts
  · obtain ⟨before, kept, _, same⟩ := start_of_barred barred s
    rw [same]
    exact leaves_failBeforeStart own barred (kept ▸ found)
  · cases starts with
    | @observations params records parsed selected =>
      rw [start_of_observations parsed selected]
      exact .ran (Starts.observations parsed selected).not_barred
        (Runner.leaves_run (.chunked (p.datasetRun params) records) found)
    | @subjects params stream parsed selected =>
      rw [start_of_subjects parsed selected]
      exact .ran (Starts.subjects parsed selected).not_barred
        (Runner.leaves_run (.streamed (p.evaluationRun params) stream) found)

theorem leaves_process [Path.Evaluator] {store : Store} (found : store.find p.site.key = some a) :
    p.Leaves a (p.process (.ofStore store)) := by
  cases readable : p.site.failingFind with
  | some e =>
    simp only [process, find, readable]
    exact .untouched found
  | none =>
    simp only [process, find_ofStore readable found]
    split
    · rename_i terminal
      exact .skipped terminal found
    · exact leaves_start own found

end Processor

end BulkActions.Run
