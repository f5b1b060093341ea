import BulkActions.Proofs.Run.Lockstep

/-! What the two kinds of runs have in common. Each makes a first write, works through its records,
and makes a last write of what it has counted by then: all of its records. -/

namespace BulkActions.Run

open Dataset Job

variable {ρ κ : Type}

/-- A run of either kind with its records. -/
inductive Runner (ρ κ : Type) where
  | chunked (r : Chunked) (records : List Observation)
  | streamed (r : Streamed ρ κ) (stream : List (StreamItem ρ))

namespace Runner

def site : Runner ρ κ → Site
  | .chunked r _ => r.site
  | .streamed r _ => r.site

/-- The number of its records, errors of the stream among them. -/
def size : Runner ρ κ → Nat
  | .chunked _ records => records.length
  | .streamed _ stream => stream.length

/-- The first write. How many records there are is not known of a stream. -/
def opening : Runner ρ κ → Update
  | .chunked _ records => .started records.length
  | .streamed _ _ => .started 0

/-- From the accepted first write up to the last one. -/
def work [Path.Evaluator] : Runner ρ κ → State κ → State κ × Tally
  | .chunked r records => r.work records
  | .streamed r stream => r.work stream

/-- What the last write asks for. -/
def outcome : Runner ρ κ → Tally → Outcome
  | .chunked r _, t => t.outcome (Chunked.headline t.counters) r.summary
  | .streamed r _, t => t.outcome (r.headline t.counters) r.summary

def done : Runner ρ κ → Outcome → Journal.Entry
  | .chunked r _ => r.done
  | .streamed r _ => r.done

def run [Path.Evaluator] : Runner ρ κ → State κ → State κ × Except Error Outcome
  | .chunked r records => r.run records
  | .streamed r stream => r.run stream

/-- The same run at another place. -/
def moved : Runner ρ κ → Site → Runner ρ κ
  | .chunked r records, other => .chunked (r.moved other) records
  | .streamed r stream, other => .streamed (r.moved other) stream

/-- The last write, of what was counted. -/
def lastWrite (r : Runner ρ κ) (t : Tally) : Update := Tally.finalWrite r.site.now (r.outcome t)

/-- The end of a run after its work. -/
def close (r : Runner ρ κ) (worked : State κ × Tally) : State κ × Except Error Outcome :=
  match worked.1.write r.site (r.lastWrite worked.2) with
  | (s, .error e) => (s, .error e)
  | (s, .ok _) => (s.note (r.done (r.outcome worked.2)), .ok (r.outcome worked.2))

variable {r : Runner ρ κ} {s begun : State κ}

@[simp] theorem site_moved (r : Runner ρ κ) (other : Site) : (r.moved other).site = other := by
  cases r <;> rfl

@[simp] theorem opening_moved (r : Runner ρ κ) (other : Site) :
    (r.moved other).opening = r.opening := by
  cases r <;> rfl

@[simp] theorem outcome_moved (r : Runner ρ κ) (other : Site) (t : Tally) :
    (r.moved other).outcome t = r.outcome t := by
  cases r <;> rfl

/-- The first write of a run says that the job is being worked on. -/
theorem status_accept_opening (r : Runner ρ κ) (row : Action) (now : Instant) :
    (row.accept r.opening now).status = .processing := by
  cases r <;> rfl

section Close

variable {worked : State κ × Tally}

theorem close_of_accepted {next : State κ} {row : Action}
    (written : worked.1.write r.site (r.lastWrite worked.2) = (next, .ok row)) :
    r.close worked = (next.note (r.done (r.outcome worked.2)), .ok (r.outcome worked.2)) := by
  simp only [close, written]

theorem close_of_refused {next : State κ} {e : Error}
    (written : worked.1.write r.site (r.lastWrite worked.2) = (next, .error e)) :
    r.close worked = (next, .error e) := by
  simp only [close, written]

/-- The last write is accepted and the outcome is reported, or the run ends with its refusal. -/
theorem close_cases (r : Runner ρ κ) (worked : State κ × Tally) :
    (∃ row, worked.1.store.find r.site.key = some row ∧ row.Admits (r.lastWrite worked.2) ∧
      r.close worked =
        ((worked.1.accepted r.site.key (row.accept (r.lastWrite worked.2) r.site.now)
          (r.lastWrite worked.2)).note (r.done (r.outcome worked.2)),
          .ok (r.outcome worked.2))) ∨
    ∃ e, r.close worked = (worked.1.refused (r.lastWrite worked.2) e, .error e) := by
  rcases worked.1.write_cases r.site (r.lastWrite worked.2) with
    ⟨row, found, admitted, written⟩ | ⟨e, written⟩
  · exact .inl ⟨row, found, admitted, close_of_accepted written⟩
  · exact .inr ⟨e, close_of_refused written⟩

end Close

variable [Path.Evaluator]

theorem run_of_started {row : Action} (started : s.write r.site r.opening = (begun, .ok row)) :
    r.run s = r.close (r.work begun) := by
  cases r with
  | chunked r records => exact Chunked.run_of_started started
  | streamed r stream => exact Streamed.run_of_started started

theorem run_of_refused {e : Error} (refused : s.write r.site r.opening = (begun, .error e)) :
    r.run s = (begun, .error e) := by
  cases r with
  | chunked r records => exact Chunked.run_of_refused refused
  | streamed r stream => exact Streamed.run_of_refused refused

/-- The first write is accepted and the run goes on from there, or it is refused and nothing follows. -/
theorem run_cases (r : Runner ρ κ) (s : State κ) :
    (∃ row, s.store.find r.site.key = some row ∧ row.Admits r.opening ∧
      r.run s = r.close (r.work
        (s.accepted r.site.key (row.accept r.opening r.site.now) r.opening))) ∨
    ∃ e, r.run s = (s.refused r.opening e, .error e) := by
  rcases s.write_cases r.site r.opening with ⟨row, found, admitted, written⟩ | ⟨e, written⟩
  · exact .inl ⟨row, found, admitted, run_of_started written⟩
  · exact .inr ⟨e, run_of_refused written⟩

/-- Every record has been counted by the end, as processed or as failed. -/
theorem counted_work (r : Runner ρ κ) (s : State κ) :
    (r.work s).2.counters.total = r.size ∧
      (r.work s).2.counters.processed + (r.work s).2.counters.failed = r.size := by
  cases r with
  | chunked r records =>
    have counts := Chunked.counts_work r records s
    have settled := counts.settled
    simp only [Tally.start, Counters.ofTotal, Nat.zero_add] at settled
    exact ⟨counts.total, settled⟩
  | streamed r stream =>
    simp only [work, size, Streamed.counters_work]
    exact ⟨rfl, r.length_eq_ending 0 stream⟩

/-- A row takes the last write only if its records can be counted. -/
theorem countable_of_admits {row : Action} (admitted : row.Admits (r.lastWrite (r.work s).2)) :
    r.size < Action.countLimit := by
  obtain ⟨total, settled⟩ := counted_work r s
  have asked : (r.outcome (r.work s).2).total = (r.work s).2.counters.total ∧
      (r.outcome (r.work s).2).processed = (r.work s).2.counters.processed ∧
      (r.outcome (r.work s).2).failed = (r.work s).2.counters.failed := by
    cases r <;> exact ⟨rfl, rfl, rfl⟩
  have counts : 0 < (r.outcome (r.work s).2).total →
      (r.outcome (r.work s).2).processed + (r.outcome (r.work s).2).failed < Action.countLimit :=
    fun known => (admitted.counts known).1
  rw [asked.1, asked.2.1, asked.2.2, settled, total] at counts
  by_cases empty : r.size = 0
  · rw [empty]
    decide
  · exact counts (Nat.pos_of_ne_zero empty)

/-- While they can, a row that is being worked on takes it. -/
theorem admits_lastWrite {row : Action} (processing : row.status = .processing)
    (countable : r.size < Action.countLimit) : row.Admits (r.lastWrite (r.work s).2) := by
  obtain ⟨total, settled⟩ := counted_work r s
  have fit : (r.work s).2.counters.Fit := ⟨by omega, by omega⟩
  cases r with
  | chunked r records => exact Tally.admits_finalWrite processing fit _ _ _
  | streamed r stream => exact Tally.admits_finalWrite processing fit _ _ _

/-- Runs in lockstep do their work together, from states in which they have begun. -/
theorem together_work {other : Site} {limit : Nat} {together : State κ → State κ → Prop}
    (lockstep : Lockstep r.site other limit together) {t : State κ} (start : together s t)
    (bounded : r.size ≤ limit) :
    Together together (r.work s) ((r.moved other).work t) := by
  cases r with
  | chunked r records => exact Chunked.together_work lockstep start records bounded
  | streamed r stream => exact Streamed.together_work lockstep start stream bounded

/-- A steady property holds throughout the work of a run. -/
theorem steady_work {limit : Nat} {motive : State κ → Prop} (steady : Steady r.site limit motive)
    (start : motive s) (bounded : r.size ≤ limit) : motive (r.work s).1 :=
  (together_work steady.lockstep ⟨rfl, start⟩ bounded).1.2

end Runner

end BulkActions.Run
