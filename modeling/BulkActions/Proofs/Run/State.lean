import BulkActions.Proofs.Job.Store
import BulkActions.Run.Tally

/-! What a write does to the state of a run. A write is accepted or refused; while the row of a job
is underway and no write is lost, the writes of a run are all accepted. -/

namespace BulkActions.Run

open Job

variable {κ : Type}

/-- What was taken from a stream and what was written, in order. -/
def milestones (events : List (Event κ)) : List (Event κ) :=
  events.filter fun
    | .pulled _ | .wrote _ _ => true
    | _ => false

section Views

variable (earlier later : List (Event κ))

@[simp] theorem submissions_append :
    submissions (earlier ++ later) = submissions earlier ++ submissions later := by
  simp [submissions]

@[simp] theorem submissions_submitted (call : SinkCall) :
    submissions ((.submitted call : Event κ) :: later) = call :: submissions later := rfl

@[simp] theorem completions_append :
    completions (earlier ++ later) = completions earlier ++ completions later := by
  simp [completions]

@[simp] theorem milestones_append :
    milestones (earlier ++ later) = milestones earlier ++ milestones later := by
  simp [milestones]

@[simp] theorem milestones_pulled (count : Nat) :
    milestones (.pulled count :: later) = .pulled count :: milestones later := by
  simp [milestones]

@[simp] theorem writes_append : writes (earlier ++ later) = writes earlier ++ writes later := by
  simp [writes]

@[simp] theorem calls_append : calls (earlier ++ later) = calls earlier ++ calls later := by
  simp [calls]

variable (index : Nat) (failure : Option Error) (call : κ) (entry : Journal.Entry)

@[simp] theorem writes_cons_noted : writes ((.noted entry : Event κ) :: later) = writes later := rfl

@[simp] theorem writes_nil : writes ([] : List (Event κ)) = [] := rfl

@[simp] theorem completions_nil : completions ([] : List (Event κ)) = [] := rfl

@[simp] theorem completions_began :
    completions (.began index :: later) = completions later := rfl

@[simp] theorem completions_called :
    completions (.called index call :: later) = completions later := rfl

@[simp] theorem completions_returned :
    completions (.returned index call :: later) = completions later := rfl

@[simp] theorem completions_ended :
    completions ((.ended index failure : Event κ) :: later) =
      (index, failure) :: completions later := rfl

@[simp] theorem completions_noted :
    completions ((.noted entry : Event κ) :: later) = completions later := rfl

end Views

/-- What happens to single tasks and what is noted: nothing is asked of the world for the job. -/
def Event.OfTask : Event κ → Prop
  | .began _ | .called _ _ | .returned _ _ | .ended _ _ | .noted _ => True
  | .wrote _ _ | .selected _ | .submitted _ | .pulled _ => False

theorem milestones_eq_nil {events : List (Event κ)} (tasks : ∀ e ∈ events, e.OfTask) :
    milestones events = [] := by
  apply List.filter_eq_nil_iff.mpr
  intro e member
  have task := tasks e member
  cases e <;> simp_all [Event.OfTask]

/-- Entries for the journal are no submissions. -/
theorem submissions_noted {α : Type} (entry : α → Journal.Entry) (xs : List α) :
    submissions (xs.map fun x => (.noted (entry x) : Event κ)) = [] := by
  simp [submissions]

namespace State

variable (s : State κ) (events : List (Event κ)) (entry : Journal.Entry)

@[simp] theorem store_record : (s.record events).store = s.store := rfl

@[simp] theorem events_record : (s.record events).events = s.events ++ events := rfl

@[simp] theorem submissions_record : (s.record events).submissions = s.submissions := rfl

@[simp] theorem store_note : (s.note entry).store = s.store := rfl

@[simp] theorem events_note : (s.note entry).events = s.events ++ [.noted entry] := rfl

@[simp] theorem submissions_note : (s.note entry).submissions = s.submissions := rfl

/-- After a write that changed a row of the store. -/
def accepted (key : RowKey) (row : Action) (u : Update) : State κ :=
  { s with
    store := s.store.written key row u
    writes := s.writes + 1
    events := s.events ++ [.wrote u none] }

/-- After a write that was refused or lost. -/
def refused (u : Update) (e : Error) : State κ :=
  { s with writes := s.writes + 1, events := s.events ++ [.wrote u (some e)] }

/-- A write changes a row that admits it, or leaves the store alone. -/
theorem write_cases (site : Site) (u : Update) :
    (∃ row, s.store.find site.key = some row ∧ row.Admits u ∧
      s.write site u = (s.accepted site.key (row.accept u site.now) u,
        .ok (row.accept u site.now))) ∨
    ∃ e, s.write site u = (s.refused u e, .error e) := by
  cases lost : site.failingWrite s.writes u with
  | some e => exact .inr ⟨e, by simp [write, writeTo, attempt, lost, refused]⟩
  | none =>
    rcases s.store.update_cases site.key u site.now with
      ⟨row, found, admitted, updated⟩ | ⟨e, failed⟩
    · refine .inl ⟨row, found, admitted, ?_⟩
      simp [write, writeTo, attempt, lost, updated, accepted]
    · exact .inr ⟨e, by simp [write, writeTo, attempt, lost, failed, refused]⟩

/-- Whatever becomes of it, a write submits nothing. -/
theorem submissions_write (site : Site) (u : Update) :
    (s.write site u).1.submissions = s.submissions := by
  rcases s.write_cases site u with ⟨_, _, _, written⟩ | ⟨_, written⟩ <;>
    rw [written] <;> rfl

end State

section Written

variable (s : State κ)

@[simp] theorem writes_accepted (key : RowKey) (row : Action) (u : Update) :
    writes (s.accepted key row u).events = writes s.events ++ [(u, none)] := by
  simp [State.accepted, writes]

@[simp] theorem writes_refused (u : Update) (e : Error) :
    writes (s.refused u e).events = writes s.events ++ [(u, some e)] := by
  simp [State.refused, writes]

end Written

/-- Every write reaches the store. -/
def Site.Undisturbed (site : Site) : Prop := ∀ number u, site.failingWrite number u = none

theorem State.write_of_admits {s : State κ} {site : Site} {row : Action} {u : Update}
    (undisturbed : site.Undisturbed) (found : s.store.find site.key = some row)
    (admitted : row.Admits u) :
    s.write site u =
      (s.accepted site.key (row.accept u site.now) u, .ok (row.accept u site.now)) := by
  have updated := Store.update_of_admits site.now found admitted
  simp [write, writeTo, attempt, undisturbed s.writes u, updated, accepted]

/-- A run can begin: no write is lost, and the job's row is queued or being worked on and has no
log yet. -/
structure Ready (site : Site) (store : Store) : Prop where
  undisturbed : site.Undisturbed
  row : ∃ row, store.find site.key = some row ∧
    (row.status = .queued ∨ row.status = .processing) ∧ row.log = none

/-- Where a job runs in the instances below. -/
def sampleSite : Site := ⟨"p", "a", ⟨0, 0, 0⟩, none, fun _ _ => none⟩

/-- Holds the queued job of that place. -/
def sampleStore : Store :=
  ⟨[(⟨"p", "a"⟩, NewAction.create ⟨"p", "u", .addToDataset, .null, .null⟩ "a" ⟨0, 0, 0⟩)], []⟩

theorem ready_sample : Ready sampleSite sampleStore :=
  ⟨fun _ _ => rfl, _, rfl, .inl rfl, rfl⟩

/-- The job's row is being worked on and has no log yet. -/
def Underway (site : Site) (store : Store) : Prop :=
  ∃ row, store.find site.key = some row ∧ row.status = .processing ∧ row.log = none

/-- The job's row is at its end and holds the outcome. -/
def Ended (site : Site) (store : Store) (o : Outcome) : Prop :=
  ∃ row, store.find site.key = some row ∧ row.status.isTerminal = true ∧
    row.finishedAt.isSome = true ∧ row.outcome = o

/-- Counts that a row takes: no more than there are, in numbers a word can hold. -/
structure Counters.Fit (c : Counters) : Prop where
  within : c.processed + c.failed ≤ c.total
  countable : c.total < Action.countLimit

theorem Counters.Fit.admits {c : Counters} (fit : c.Fit) {row : Action} {u : Update}
    (moves : ∀ next, u.status = some next → row.status.canMoveTo next = true)
    (ends : u.finishedAt.isSome → (row.nextStatus u).isTerminal = true)
    (total : row.nextTotal u = c.total) (processed : row.nextProcessed u = c.processed)
    (failed : row.nextFailed u = c.failed) : row.Admits u where
  moves := moves
  ends := ends
  counts _ := by
    rw [total, processed, failed]
    exact ⟨Nat.lt_of_le_of_lt fit.within fit.countable, fit.within⟩

end BulkActions.Run
