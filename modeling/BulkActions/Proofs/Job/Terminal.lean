import BulkActions.Proofs.Job.Calls

/-! What can still be written to a finished job. A write that carries a status is refused; progress
carries none, so that its counts are taken even then, as long as they fit. Status, log and end
stay. -/

namespace BulkActions.Job

/-- The writes a runner makes of its job. -/
inductive Update.OfRunner : Update → Prop where
  | started (total : Nat) : OfRunner (.started total)
  | progress (total processed failed : Nat) : OfRunner (.progress total processed failed)
  | finished (total processed failed : Nat) (log : Option String) (time : Instant) :
      OfRunner (.finished (.ofCounts processed failed) total processed failed log time)
  | failedBeforeStart (log : String) (time : Instant) : OfRunner (.failedBeforeStart log time)

/-- Counts that a row takes: once their number is known, no more records are counted than there
are, and their sum fits in a word. -/
def Fits (total processed failed : Nat) : Prop :=
  0 < total → processed + failed < Action.countLimit ∧ processed + failed ≤ total

namespace Action

theorem admits_progress_iff (a : Action) (total processed failed : Nat) :
    a.Admits (.progress total processed failed) ↔ Fits total processed failed := by
  constructor
  · intro admitted
    exact admitted.counts
  · intro fits
    exact ⟨by simp [Update.progress], by simp [Update.progress], fits⟩

theorem not_admits_of_terminal {a : Action} (terminal : a.status.isTerminal = true) {u : Update}
    {next : Status} (named : u.status = some next) : ¬ a.Admits u := by
  intro admitted
  have moved := (Status.canMoveTo_iff _ _).mp (admitted.moves next named)
  simp [terminal] at moved

theorem outcome_accept_progress (a : Action) (total processed failed : Nat) (time : Instant) :
    (a.accept (.progress total processed failed) time).outcome =
      ⟨a.status, total, processed, failed, a.log⟩ := by
  simp [outcome, accept, nextStatus, nextTotal, nextProcessed, nextFailed, Update.progress]

theorem finishedAt_accept_progress (a : Action) (total processed failed : Nat) (time : Instant) :
    (a.accept (.progress total processed failed) time).finishedAt = a.finishedAt := by
  simp [accept, Update.progress]

/-- Besides the counts, `b` holds what `a` holds of how the job ended. -/
structure EndsLike (b a : Action) : Prop where
  status : b.status = a.status
  log : b.log = a.log
  finishedAt : b.finishedAt = a.finishedAt

theorem EndsLike.refl (a : Action) : a.EndsLike a := ⟨rfl, rfl, rfl⟩

theorem EndsLike.trans {a b c : Action} (second : c.EndsLike b) (first : b.EndsLike a) :
    c.EndsLike a where
  status := second.status.trans first.status
  log := second.log.trans first.log
  finishedAt := second.finishedAt.trans first.finishedAt

theorem endsLike_accept_progress (a : Action) (total processed failed : Nat) (time : Instant) :
    (a.accept (.progress total processed failed) time).EndsLike a where
  status := congrArg Outcome.status (a.outcome_accept_progress total processed failed time)
  log := congrArg Outcome.log (a.outcome_accept_progress total processed failed time)
  finishedAt := a.finishedAt_accept_progress total processed failed time

end Action

namespace Store

variable {s : Store} {key : RowKey} {a : Action}

theorem find_after_of_admits {u : Update} (found : s.find key = some a) (admitted : a.Admits u)
    (time : Instant) : (s.after (.update key u time)).find key = some (a.accept u time) := by
  simp [after, update_of_admits time found admitted, find_written]

/-- A finished job takes progress that fits; whatever else a runner writes changes nothing. -/
theorem after_write_of_terminal (found : s.find key = some a)
    (terminal : a.status.isTerminal = true) {u : Update} (runner : u.OfRunner) (time : Instant) :
    (∃ total processed failed, u = .progress total processed failed ∧
      Fits total processed failed ∧
      (s.after (.update key u time)).find key = some (a.accept u time)) ∨
    ((∀ total processed failed, u = .progress total processed failed →
      ¬ Fits total processed failed) ∧ s.after (.update key u time) = s) := by
  rcases s.update_cases key u time with ⟨row, present, admitted, updated⟩ | ⟨e, refused⟩
  · left
    cases Option.some.inj (found.symm.trans present)
    have stored := find_after_of_admits found admitted time
    cases runner with
    | started total => exact absurd admitted (Action.not_admits_of_terminal terminal rfl)
    | progress total processed failed =>
      exact ⟨total, processed, failed, rfl, (a.admits_progress_iff _ _ _).mp admitted, stored⟩
    | finished total processed failed log time =>
      exact absurd admitted (Action.not_admits_of_terminal terminal rfl)
    | failedBeforeStart log time =>
      exact absurd admitted (Action.not_admits_of_terminal terminal rfl)
  · right
    refine ⟨?_, by simp [after, refused]⟩
    rintro total processed failed rfl fits
    have admitted := (a.admits_progress_iff _ _ _).mpr fits
    rw [update_of_admits time found admitted] at refused
    cases congrArg Prod.snd refused

/-- Every call writes to one job what a runner writes. -/
def ByRunners (key : RowKey) (calls : List Call) : Prop :=
  ∀ call ∈ calls, ∃ u time, call = .update key u time ∧ u.OfRunner

/-- Progress among the calls that fits and counts otherwise than the outcome. -/
def Recounts (key : RowKey) (calls : List Call) (o : Outcome) : Prop :=
  ∃ total processed failed time, .update key (.progress total processed failed) time ∈ calls ∧
    Fits total processed failed ∧ (total, processed, failed) ≠ (o.total, o.processed, o.failed)

theorem Recounts.of_subset {calls more : List Call} {o : Outcome}
    (recounts : Recounts key calls o) (subset : calls ⊆ more) : Recounts key more o := by
  obtain ⟨total, processed, failed, time, member, other⟩ := recounts
  exact ⟨total, processed, failed, time, subset member, other⟩

/-- Through any writes of runners a finished job keeps how it ended. -/
theorem endsLike_afterAll {calls : List Call} (runners : ByRunners key calls)
    (found : s.find key = some a) (terminal : a.status.isTerminal = true) :
    ∃ b, (s.afterAll calls).find key = some b ∧ b.EndsLike a := by
  induction calls generalizing s a with
  | nil => exact ⟨a, found, .refl a⟩
  | cons call rest ih =>
    obtain ⟨⟨u, time, rfl, runner⟩, later⟩ := List.forall_mem_cons.mp runners
    rcases after_write_of_terminal found terminal runner time with
      ⟨total, processed, failed, rfl, _, stored⟩ | ⟨_, same⟩
    · have kept := a.endsLike_accept_progress total processed failed time
      obtain ⟨b, last, ends⟩ := ih later stored (kept.status ▸ terminal)
      exact ⟨b, last, ends.trans kept⟩
    · obtain ⟨b, last, ends⟩ := ih later found terminal
      exact ⟨b, by simpa [afterAll, same] using last, ends⟩

/-- As long as no progress recounts it, it keeps its whole outcome. -/
theorem outcome_afterAll {calls : List Call} (runners : ByRunners key calls)
    (found : s.find key = some a) (terminal : a.status.isTerminal = true)
    (kept : ¬ Recounts key calls a.outcome) :
    ∃ b, (s.afterAll calls).find key = some b ∧ b.outcome = a.outcome := by
  induction calls generalizing s a with
  | nil => exact ⟨a, found, rfl⟩
  | cons call rest ih =>
    obtain ⟨⟨u, time, rfl, runner⟩, later⟩ := List.forall_mem_cons.mp runners
    have quiet : ¬ Recounts key rest a.outcome := fun recounts =>
      kept (recounts.of_subset (List.subset_cons_self _ rest))
    rcases after_write_of_terminal found terminal runner time with
      ⟨total, processed, failed, rfl, fits, stored⟩ | ⟨_, same⟩
    · have counts : (total, processed, failed) = (a.total, a.processed, a.failed) :=
        Decidable.byContradiction fun other =>
          kept ⟨total, processed, failed, time, List.mem_cons_self, fits, other⟩
      cases counts
      have again : (a.accept (.progress a.total a.processed a.failed) time).outcome = a.outcome :=
        a.outcome_accept_progress _ _ _ time
      obtain ⟨b, last, equal⟩ := ih later stored terminal (again ▸ quiet)
      exact ⟨b, last, equal.trans again⟩
    · obtain ⟨b, last, equal⟩ := ih later found terminal quiet
      exact ⟨b, by simpa [afterAll, same] using last, equal⟩

/-- Right after progress that recounts it, the job no longer has its outcome. -/
theorem outcome_ne_of_recounts {calls : List Call} (runners : ByRunners key calls)
    (found : s.find key = some a) (terminal : a.status.isTerminal = true)
    (recounts : Recounts key calls a.outcome) :
    ∃ n b, (s.afterAll (calls.take n)).find key = some b ∧ b.outcome ≠ a.outcome := by
  obtain ⟨total, processed, failed, time, member, fits, other⟩ := recounts
  obtain ⟨before, rest, order⟩ := List.append_of_mem member
  have earlier : ByRunners key before := fun call present =>
    runners call (by rw [order]; exact List.mem_append_left _ present)
  obtain ⟨b, reached, ends⟩ := endsLike_afterAll earlier found terminal
  have upTo : calls.take (before.length + 1) =
      before ++ [.update key (.progress total processed failed) time] := by
    rw [order, List.take_length_add_append]
    rfl
  refine ⟨before.length + 1, b.accept (.progress total processed failed) time, ?_, ?_⟩
  · rw [upTo, afterAll_append]
    exact find_after_of_admits reached ((b.admits_progress_iff _ _ _).mpr fits) time
  · intro same
    rw [b.outcome_accept_progress] at same
    exact other (by rw [← same])

theorem find_of_update_eq_ok {s' : Store} {u : Update} {now : Instant}
    (accepted : s.update key u now = (s', .ok a)) :
    s'.find key = some a ∧ ∀ next, u.status = some next → a.status = next := by
  rcases s.update_cases key u now with ⟨row, _, _, updated⟩ | ⟨e, refused⟩
  · rw [updated] at accepted
    cases accepted
    refine ⟨by simp [find_written], ?_⟩
    intro next named
    simp [Action.accept, Action.nextStatus, named]
  · rw [refused] at accepted
    cases accepted

/-- Once a write with a terminal status is accepted, status, log and end stay as it left them,
whatever runners still write. The counts stay as well exactly if no progress comes that fits and
counts otherwise: a finished job is open to a runner that is late. -/
theorem finished_row_frozen_iff {s' : Store} {w : Update} {now : Instant} {status : Status}
    {later : List Call} (ending : w.status = some status) (terminal : status.isTerminal = true)
    (accepted : s.update key w now = (s', .ok a)) (runners : ByRunners key later) :
    (∀ n, ∃ b, (s'.afterAll (later.take n)).find key = some b ∧ b.EndsLike a) ∧
    ((∀ n, ∃ b, (s'.afterAll (later.take n)).find key = some b ∧ b.outcome = a.outcome) ↔
      ¬ Recounts key later a.outcome) := by
  obtain ⟨found, named⟩ := find_of_update_eq_ok accepted
  have ended : a.status.isTerminal = true := by rw [named status ending]; exact terminal
  have upTo : ∀ n, ByRunners key (later.take n) := fun n call member =>
    runners call (List.mem_of_mem_take member)
  refine ⟨fun n => endsLike_afterAll (upTo n) found ended, ?_, ?_⟩
  · intro frozen recounts
    obtain ⟨n, b, reached, other⟩ := outcome_ne_of_recounts runners found ended recounts
    obtain ⟨c, same, equal⟩ := frozen n
    cases Option.some.inj (reached.symm.trans same)
    exact other equal
  · intro kept n
    exact outcome_afterAll (upTo n) found ended fun recounts =>
      kept (recounts.of_subset (List.take_subset n later))

/-- The last write of a runner whose one record was processed. -/
def lastWrite : Update := .finished .completed 1 1 0 none ⟨3, 0, 0⟩

/-- What a second runner still writes, for which the same record failed. -/
def lateWrites : List Update :=
  [.progress 1 0 1, .finished .failed 1 0 1 (some "1 failed") ⟨5, 0, 0⟩]

/-- All that the two runners write, one after the other for each of them. -/
def firstWrites : List Update := [.started 1, .progress 1 1 0, lastWrite]

def secondWrites : List Update := .started 1 :: lateWrites

/-- Both have started when the first one ends the job. -/
def earlyWrites : List Update := [.started 1, .started 1, .progress 1 1 0]

def racedKey : RowKey := ⟨"p", "a"⟩

def racedCalls (writes : List Update) : List Call :=
  writes.map fun u => .update racedKey u ⟨9, 0, 0⟩

/-- The job before the last write of the first runner. -/
def racedStore : Store :=
  (empty.insert (NewAction.create ⟨"p", "u", .addToDataset, .null, .null⟩ "a" ⟨0, 0, 0⟩)).afterAll
    (racedCalls earlyWrites)

/-- The row that the last write of the first runner leaves. -/
def racedRow : Action :=
  { NewAction.create ⟨"p", "u", .addToDataset, .null, .null⟩ "a" ⟨0, 0, 0⟩ with
    status := .completed, total := 1, processed := 1, finishedAt := some ⟨3, 0, 0⟩,
    updatedAt := ⟨9, 0, 0⟩ }

theorem byRunners_lateWrites : ByRunners racedKey (racedCalls lateWrites) := by
  intro call member
  obtain ⟨u, present, rfl⟩ := List.mem_map.mp member
  simp only [lateWrites, List.mem_cons, List.not_mem_nil, or_false] at present
  rcases present with rfl | rfl
  · exact ⟨_, _, rfl, .progress 1 0 1⟩
  · exact ⟨_, _, rfl, .finished 1 0 1 _ _⟩

theorem finished_row_frozen_iff_raced :
    lastWrite.status = some .completed ∧ Status.completed.isTerminal = true ∧
    racedStore.update racedKey lastWrite ⟨9, 0, 0⟩ =
      (racedStore.written racedKey racedRow lastWrite, .ok racedRow) ∧
    ByRunners racedKey (racedCalls lateWrites) ∧
    (∀ n, ∃ b, ((racedStore.written racedKey racedRow lastWrite).afterAll
      ((racedCalls lateWrites).take n)).find racedKey = some b ∧ b.EndsLike racedRow) ∧
    ((∀ n, ∃ b, ((racedStore.written racedKey racedRow lastWrite).afterAll
      ((racedCalls lateWrites).take n)).find racedKey = some b ∧ b.outcome = racedRow.outcome) ↔
      ¬ Recounts racedKey (racedCalls lateWrites) racedRow.outcome) :=
  have accepted : racedStore.update racedKey lastWrite ⟨9, 0, 0⟩ =
      (racedStore.written racedKey racedRow lastWrite, .ok racedRow) := rfl
  ⟨rfl, rfl, accepted, byRunners_lateWrites,
    finished_row_frozen_iff rfl rfl accepted byRunners_lateWrites⟩

/-- An order of the two runners' writes in which the row of the completed job comes to say that
nothing was processed and one record failed. -/
theorem late_progress_recounts_finished_job :
    firstWrites.Sublist (earlyWrites ++ lastWrite :: lateWrites) ∧
    secondWrites.Sublist (earlyWrites ++ lastWrite :: lateWrites) ∧
    (earlyWrites ++ lastWrite :: lateWrites).Perm (firstWrites ++ secondWrites) ∧
    racedStore.update racedKey lastWrite ⟨9, 0, 0⟩ =
      (racedStore.written racedKey racedRow lastWrite, .ok racedRow) ∧
    racedRow.outcome = ⟨.completed, 1, 1, 0, none⟩ ∧
    ((racedStore.written racedKey racedRow lastWrite).afterAll
      (racedCalls lateWrites)).find racedKey =
      some { racedRow with processed := 0, failed := 1 } := by
  refine ⟨by decide, by decide, by decide, rfl, rfl, rfl⟩

end Store

end BulkActions.Job
