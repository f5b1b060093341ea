import BulkActions.Proofs.Run.Losses

/-! Runs that end with an error. Between its first and its last write nothing can stop a run, so it
fails with the refusal of one of these two. If the last one is refused, all the work is done, and the
job's row stands where the last accepted write left it. -/

namespace BulkActions.Job

/-- The row has the counts that an update names. -/
structure Action.CountedBy (row : Action) (u : Update) : Prop where
  total : u.total = some row.total
  processed : u.processed = some row.processed
  failed : u.failed = some row.failed

end BulkActions.Job

namespace BulkActions.Run

open Dataset Job

variable {ρ κ : Type}

/-- The updates that the store took, in order. -/
def acceptedWrites (events : List (Event κ)) : List Update :=
  (writes events).filterMap fun
    | (u, none) => some u
    | (_, some _) => none

/-- The job's row is being worked on, with the counts of the write that was accepted last. -/
def Stands (key : RowKey) (s : State κ) : Prop :=
  ∃ row last, s.store.find key = some row ∧ row.status = .processing ∧
    (acceptedWrites s.events).getLast? = some last ∧ row.CountedBy last

theorem firstAnswer_append {earlier : List (Event κ)} {answer : Option Error}
    (first : firstAnswer earlier = some answer) (later : List (Event κ)) :
    firstAnswer (earlier ++ later) = some answer := by
  obtain ⟨write, head, rfl⟩ := Option.map_eq_some_iff.mp first
  simp [firstAnswer, head]

section Stands

variable {key : RowKey} {s : State κ}

theorem Stands.record {events : List (Event κ)} (quiet : writes events = [])
    (stands : Stands key s) : Stands key (s.record events) := by
  obtain ⟨row, last, found, processing, accepted, counted⟩ := stands
  refine ⟨row, last, found, processing, ?_, counted⟩
  rw [State.events_record, acceptedWrites, writes_append, quiet, List.append_nil]
  exact accepted

/-- A refused write leaves the row alone, and is not among the accepted ones. -/
theorem Stands.refused (stands : Stands key s) (u : Update) (e : Error) :
    Stands key (s.refused u e) := by
  obtain ⟨row, last, found, processing, accepted, counted⟩ := stands
  refine ⟨row, last, found, processing, ?_, counted⟩
  simpa [acceptedWrites] using accepted

/-- An accepted write that counts is the one that the row stands at. -/
theorem Stands.accepted (s : State κ) (key : RowKey) {row : Action} {u : Update}
    (processing : row.status = .processing) (counted : row.CountedBy u) :
    Stands key (s.accepted key row u) :=
  ⟨row, u, State.find_accepted _ _ _ _, processing, by simp [acceptedWrites], counted⟩

end Stands

/-- Whatever becomes of its progress, a run is where it said last. -/
theorem steady_stands (site : Site) (limit : Nat) :
    Steady site limit fun s : State κ =>
      firstAnswer s.events = some none ∧ Stands site.key s where
  submitted holds := holds
  record := by
    intro s events quiet ⟨opened, stands⟩
    exact ⟨firstAnswer_append opened events, stands.record quiet⟩
  progress := by
    intro s tally lost _ ⟨opened, stands⟩
    have ⟨row, _, found, processing, _⟩ := stands
    rcases s.write_cases site tally.counters.progress with
      ⟨present, same, admitted, written⟩ | ⟨e, written⟩
    · rw [tally.writeProgress_of_accepted lost written]
      cases Option.some.inj (found.symm.trans same)
      exact ⟨firstAnswer_append opened _, .accepted _ _ processing ⟨rfl, rfl, rfl⟩⟩
    · rw [tally.writeProgress_of_refused lost written]
      exact ⟨firstAnswer_append (firstAnswer_append opened _) _,
        (stands.refused _ e).record rfl⟩

namespace Runner

/-- A run that has begun works up to its last write, and stands where its last accepted write says. -/
theorem stands_work [Path.Evaluator] (r : Runner ρ κ) (store : Store) (row : Action) :
    firstAnswer (r.work (r.begun store row)).1.events = some none ∧
      Stands r.site.key (r.work (r.begun store row)).1 := by
  have counted : (row.accept r.opening r.site.now).CountedBy r.opening := by
    cases r <;> exact ⟨rfl, rfl, rfl⟩
  exact steady_work (steady_stands r.site r.size)
    ⟨rfl, .accepted _ _ (r.status_accept_opening _ _) counted⟩ (Nat.le_refl _)

/-- After the work, a run fails with the refusal of its last write. -/
theorem close_fails_iff (r : Runner ρ κ) (worked : State κ × Tally) (e : Error) :
    (r.close worked).2 = .error e ↔ lastAnswer (r.close worked).1.events = some (some e) := by
  rcases r.close_cases worked with ⟨row, _, _, closed⟩ | ⟨refusal, closed⟩
  · simp [closed, lastAnswer]
  · simp [closed, lastAnswer]

theorem firstAnswer_close (r : Runner ρ κ) {worked : State κ × Tally} {answer : Option Error}
    (first : firstAnswer worked.1.events = some answer) :
    firstAnswer (r.close worked).1.events = some answer := by
  rcases r.close_cases worked with ⟨row, _, _, closed⟩ | ⟨refusal, closed⟩
  · rw [closed]
    exact firstAnswer_append (firstAnswer_append first _) _
  · rw [closed]
    exact firstAnswer_append first _

/-- A run whose last write is refused leaves the row where it stands. -/
theorem stands_close (r : Runner ρ κ) {worked : State κ × Tally} (stands : Stands r.site.key worked.1)
    {e : Error} (failed : (r.close worked).2 = .error e) :
    Stands r.site.key (r.close worked).1 := by
  rcases r.close_cases worked with ⟨row, _, _, closed⟩ | ⟨refusal, closed⟩
  · rw [closed] at failed
    cases failed
  · rw [closed]
    exact stands.refused _ _

/-- Whatever the services answer and whatever the store refuses, a run fails exactly if its first or
its last write is refused, and then with this refusal. If it is the first, nothing else has happened
and the store is as it was. If only the last one is refused, the run has done what it does over a
store that loses nothing, where it ends well as long as a word can count its records; and the job's
row is still being worked on, with the counts of the write that was accepted last. -/
theorem run_fails_iff_end_refused [Path.Evaluator] (r : Runner ρ κ) (store : Store) :
    ∃ s answer, r.run (.ofStore store) = (s, answer) ∧
      (∀ e, answer = .error e ↔
        firstAnswer s.events = some (some e) ∨ lastAnswer s.events = some (some e)) ∧
      (∀ e, firstAnswer s.events = some (some e) →
        s.events = [.wrote r.opening (some e)] ∧ s.store = store) ∧
      (∀ e, firstAnswer s.events = some none → lastAnswer s.events = some (some e) →
        Stands r.site.key s ∧
        deeds s.events = deeds (r.reliably.run (.ofStore store)).1.events ∧
        (r.size < Action.countLimit →
          ∃ o, (r.reliably.run (.ofStore store)).2 = .ok o)) := by
  rcases r.begins_or_refused store with ⟨row, found, admitted, ran⟩ | ⟨refusal, ran⟩
  · obtain ⟨begins, stands⟩ := r.stands_work store row
    have opened := r.firstAnswer_close begins
    have fails := r.close_fails_iff (r.work (r.begun store row))
    rw [ran]
    refine ⟨(r.close (r.work (r.begun store row))).1, (r.close (r.work (r.begun store row))).2, rfl,
      ?_, ?_, ?_⟩
    · intro e
      rw [fails e, opened]
      simp
    · intro e refused
      rw [opened] at refused
      cases refused
    · intro e _ refused
      refine ⟨r.stands_close stands ((fails e).mpr refused), deeds_reliably found admitted, ?_⟩
      intro countable
      obtain ⟨_, last, present, _⟩ := stands
      obtain ⟨t, reliably, _⟩ := run_reliably found admitted countable present
      exact ⟨_, congrArg Prod.snd reliably⟩
  · refine ⟨_, _, ran, ?_, ?_, ?_⟩
    · intro e
      simp [firstAnswer, lastAnswer, State.ofStore]
    · intro e refused
      have same : refusal = e := by simpa [firstAnswer, State.ofStore] using refused
      subst same
      exact ⟨rfl, rfl⟩
    · intro e accepted
      simp [firstAnswer, State.ofStore] at accepted

/-- The sample run, of which all writes are lost from the second progress on. -/
def cutOffRun : Runner Unit Unit :=
  .chunked (Chunked.sampleRun.moved { sampleSite with
    failingWrite := fun number _ => if 2 ≤ number then some (.database "gone") else none })
    Chunked.sampleRecords

/-- The row counts the two records of the first chunk, although all three were handled. -/
example : (cutOffRun.run (.ofStore sampleStore)).2 = .error (.database "gone") ∧
    ((cutOffRun.run (.ofStore sampleStore)).1.store.find cutOffRun.site.key).map Action.outcome =
      some ⟨.processing, 3, 1, 1, none⟩ := ⟨rfl, rfl⟩

end Runner

end BulkActions.Run
