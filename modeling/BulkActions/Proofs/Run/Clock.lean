import BulkActions.Proofs.Run.Runner

/-! Runs at different times. A row is changed and ended at some time, but no decision hangs on when:
two runs that begin in states which are alike up to these times do the same, step by step, and end in
states which are alike. -/

namespace BulkActions.Job

/-- When the job ended and when it was last changed is left out; that it ended is not. -/
def Action.undated (a : Action) : Action :=
  { a with finishedAt := a.finishedAt.map fun _ => ⟨0, 0, 0⟩, updatedAt := ⟨0, 0, 0⟩ }

def Update.undated (u : Update) : Update :=
  { u with finishedAt := u.finishedAt.map fun _ => ⟨0, 0, 0⟩ }

namespace Action

theorem refusal_undated (a : Action) (u : Update) : a.undated.refusal u.undated = a.refusal u := by
  obtain ⟨status, total, processed, failed, log, finishedAt⟩ := u
  cases finishedAt <;> rfl

theorem undated_accept (a : Action) (u : Update) (now : Instant) :
    (a.accept u now).undated = a.undated.accept u.undated ⟨0, 0, 0⟩ := by
  cases ended : a.finishedAt <;> simp [undated, accept, Update.undated, ended, nextStatus,
    nextTotal, nextProcessed, nextFailed]

variable {a b : Action} {u v : Update}

theorem refusal_eq_of_undated (rows : a.undated = b.undated) (updates : u.undated = v.undated) :
    a.refusal u = b.refusal v := by
  rw [← refusal_undated a, rows, updates, refusal_undated b]

theorem accept_eq_of_undated (rows : a.undated = b.undated) (updates : u.undated = v.undated)
    (now later : Instant) : (a.accept u now).undated = (b.accept v later).undated := by
  rw [undated_accept, rows, updates, undated_accept b]

end Action

end BulkActions.Job

namespace BulkActions.Run

open Dataset Job

variable {κ : Type}

/-- Of a write, the time is left out. -/
def Event.undated : Event κ → Event κ
  | .wrote u refusal => .wrote u.undated refusal
  | event => event

/-- The same place at another time. -/
def Site.retimed (site : Site) (now : Instant) : Site := { site with now := now }

/-- In two states the same has happened, and the row of the job is the same, up to times. -/
structure Alike (key : RowKey) (s t : State κ) : Prop where
  submissions : s.submissions = t.submissions
  events : s.events.map Event.undated = t.events.map Event.undated
  row : ∃ a b, s.store.find key = some a ∧ t.store.find key = some b ∧ a.undated = b.undated

/-- Two results are the same but for times. -/
def Agree {α : Type} (key : RowKey) (x y : State κ × α) : Prop := Alike key x.1 y.1 ∧ x.2 = y.2

theorem State.write_of_refusal {s : State κ} {site : Site} {row : Action} {u : Update} {e : Error}
    (undisturbed : site.Undisturbed) (found : s.store.find site.key = some row)
    (refused : row.refusal u = some e) : s.write site u = (s.refused u e, .error e) := by
  have failed := Store.update_of_refusal site.now found refused
  simp [write, writeTo, attempt, undisturbed s.writes u, failed, State.refused]

section Steps

variable {key : RowKey} {s t : State κ}

theorem Alike.record (alike : Alike key s t) (events : List (Event κ)) :
    Alike key (s.record events) (t.record events) where
  submissions := alike.submissions
  events := by
    rw [State.events_record, State.events_record, List.map_append, List.map_append, alike.events]
  row := alike.row

theorem Alike.note (alike : Alike key s t) (entry : Journal.Entry) :
    Alike key (s.note entry) (t.note entry) := alike.record _

variable {site : Site} (undisturbed : site.Undisturbed) (later : Instant)

include undisturbed

/-- A write is accepted in both states, or refused in both for the same reason. -/
theorem Alike.write (alike : Alike site.key s t) {u v : Update} (same : u.undated = v.undated) :
    (∃ s' t' a b, s.write site u = (s', .ok a) ∧ t.write (site.retimed later) v = (t', .ok b) ∧
      Alike site.key s' t') ∨
    ∃ s' t' e, s.write site u = (s', .error e) ∧
      t.write (site.retimed later) v = (t', .error e) ∧ Alike site.key s' t' := by
  obtain ⟨a, b, found, present, rows⟩ := alike.row
  have still : (site.retimed later).Undisturbed := undisturbed
  have same' := Action.refusal_eq_of_undated rows same
  cases refused : a.refusal u with
  | none =>
    left
    have first := (Action.refusal_eq_none_iff a u).mp refused
    have second := (Action.refusal_eq_none_iff b v).mp (same'.symm.trans refused)
    refine ⟨_, _, _, _, State.write_of_admits undisturbed found first,
      State.write_of_admits still present second, alike.submissions, ?_, _, _,
      State.find_accepted _ _ _ _, State.find_accepted _ _ _ _,
      Action.accept_eq_of_undated rows same _ _⟩
    simp only [State.accepted, List.map_append, alike.events, List.map_cons, List.map_nil,
      Event.undated, same]
  | some e =>
    right
    refine ⟨_, _, e, State.write_of_refusal undisturbed found refused,
      State.write_of_refusal still present (same'.symm.trans refused), alike.submissions, ?_,
      alike.row⟩
    simp only [State.refused, List.map_append, alike.events, List.map_cons, List.map_nil,
      Event.undated, same]

theorem Tally.alike_writeProgress (alike : Alike site.key s t) (tally : Tally)
    (lost : Error → Journal.Entry) :
    Alike site.key (tally.writeProgress site lost s)
      (tally.writeProgress (site.retimed later) lost t) := by
  unfold writeProgress
  rcases alike.write undisturbed later (u := tally.counters.progress) rfl with
    ⟨s', t', a, b, first, second, next⟩ | ⟨s', t', e, first, second, next⟩
  · rw [first, second]
    exact next
  · rw [first, second]
    exact next.note _

theorem Tally.agree_finish (alike : Alike site.key s t) (tally : Tally) (headline : String)
    (settings : SummarySettings) (done : Outcome → Journal.Entry) :
    Agree site.key (tally.finish site headline settings done s)
      (tally.finish (site.retimed later) headline settings done t) := by
  rcases alike.write undisturbed later
      (u := finalWrite site.now (tally.outcome headline settings))
      (v := finalWrite later (tally.outcome headline settings)) rfl with
    ⟨s', t', a, b, first, second, next⟩ | ⟨s', t', e, first, second, next⟩
  · rw [tally.finish_of_accepted _ _ done first, tally.finish_of_accepted _ _ done second]
    exact ⟨next.note _, rfl⟩
  · rw [tally.finish_of_refused _ _ done first, tally.finish_of_refused _ _ done second]
    exact ⟨next, rfl⟩

/-- Whenever it happens, what happens in both runs keeps them alike. -/
theorem lockstep_alike (limit : Nat) :
    Lockstep site (site.retimed later) limit (Alike (κ := κ) site.key) where
  projectId := rfl
  actionId := rfl
  numbered alike := alike.submissions
  submitted alike := ⟨congrArg (· + 1) alike.submissions, alike.events, alike.row⟩
  record _ alike := alike.record _
  progress tally lost _ alike := Tally.alike_writeProgress undisturbed later alike tally lost

end Steps

/-- The same run at another time. -/
def Chunked.retimed (r : Chunked) (later : Instant) : Chunked :=
  { r with site := r.site.retimed later }

/-- The same run at another time. -/
def Streamed.retimed {ρ : Type} (r : Streamed ρ κ) (later : Instant) : Streamed ρ κ :=
  { r with site := r.site.retimed later }

namespace Runner

variable {ρ : Type}

def retimed : Runner ρ κ → Instant → Runner ρ κ
  | .chunked r records, later => .chunked (r.retimed later) records
  | .streamed r stream, later => .streamed (r.retimed later) stream

theorem retimed_eq_moved (r : Runner ρ κ) (later : Instant) :
    r.retimed later = r.moved (r.site.retimed later) := by
  cases r <;> rfl

variable {r : Runner ρ κ} {s t : State κ} (undisturbed : r.site.Undisturbed) (later : Instant)

include undisturbed

theorem agree_close (alike : Alike r.site.key s t) (tally : Tally) :
    Agree r.site.key (r.close (s, tally)) ((r.retimed later).close (t, tally)) := by
  cases r with
  | chunked r records => exact Tally.agree_finish undisturbed later alike _ _ _ _
  | streamed r stream => exact Tally.agree_finish undisturbed later alike _ _ _ _

/-- Runs that have begun in states which are alike agree. -/
theorem agree_run [Path.Evaluator] {begun also : State κ} {row other : Action}
    (started : s.write r.site r.opening = (begun, .ok row))
    (startedAlso : t.write (r.site.retimed later) r.opening = (also, .ok other))
    (alike : Alike r.site.key begun also) :
    Agree r.site.key (r.run s) ((r.retimed later).run t) := by
  obtain ⟨worked, same⟩ :=
    together_work (lockstep_alike undisturbed later r.size) alike (Nat.le_refl _)
  rw [← retimed_eq_moved] at worked same
  have again : t.write (r.retimed later).site (r.retimed later).opening = (also, .ok other) := by
    rw [retimed_eq_moved, site_moved, opening_moved]
    exact startedAlso
  have tallied : (r.retimed later).work also =
      (((r.retimed later).work also).1, (r.work begun).2) := Prod.ext rfl same.symm
  rw [run_of_started started, run_of_started again, tallied]
  exact agree_close undisturbed later worked _

end Runner

end BulkActions.Run
