import BulkActions.Proofs.Run.Runner
import BulkActions.Proofs.Job.Terminal

/-! Progress that is lost. Nothing a run does hangs on whether its progress is written: as long as its
first and its last write go through, it does what it does over a store that loses nothing. The last
write settles the counts of the row, however far behind they were. -/

namespace BulkActions.Job.Action

/-- What progress leaves alone: all but the counts, and when the record was last changed. -/
def uncounted (a : Action) : Action :=
  { a with total := 0, processed := 0, failed := 0, updatedAt := ⟨0, 0, 0⟩ }

theorem uncounted_accept_progress (a : Action) (total processed failed : Nat) (now : Instant) :
    (a.accept (.progress total processed failed) now).uncounted = a.uncounted := by
  simp [uncounted, accept, nextStatus, Update.progress]

theorem status_of_uncounted {a b : Action} (same : a.uncounted = b.uncounted) :
    a.status = b.status := by
  change a.uncounted.status = b.uncounted.status
  rw [same]

/-- The last write of a run counts anew. -/
theorem accept_finished_of_uncounted {a b : Action} (same : a.uncounted = b.uncounted)
    (status : Status) (total processed failed : Nat) (log : Option String) (time now : Instant) :
    a.accept (.finished status total processed failed log time) now =
      b.accept (.finished status total processed failed log time) now := by
  have settles (row : Action) : row.accept (.finished status total processed failed log time) now =
      row.uncounted.accept (.finished status total processed failed log time) now := rfl
  rw [settles a, same, ← settles b]

end BulkActions.Job.Action

namespace BulkActions.Run

open Dataset Job

variable {ρ κ : Type}

/-- What was done: entries for the journal are left out, and of a write whether it was refused. -/
def Event.deed? : Event κ → Option (Event κ)
  | .wrote u _ => some (.wrote u none)
  | .noted _ => none
  | event => some event

/-- The calls that were made, the items that were taken and the writes that were attempted, in
order. -/
def deeds (events : List (Event κ)) : List (Event κ) := events.filterMap Event.deed?

/-- How the store answered the first write: with a refusal or without. -/
def firstAnswer (events : List (Event κ)) : Option (Option Error) :=
  (writes events).head?.map Prod.snd

def lastAnswer (events : List (Event κ)) : Option (Option Error) :=
  (writes events).getLast?.map Prod.snd

/-- The same place with a store that loses nothing. -/
def Site.reliable (site : Site) : Site := { site with failingWrite := fun _ _ => none }

theorem Site.undisturbed_reliable (site : Site) : site.reliable.Undisturbed := fun _ _ => rfl

section Deeds

@[simp] theorem deeds_append (earlier later : List (Event κ)) :
    deeds (earlier ++ later) = deeds earlier ++ deeds later := by
  simp [deeds]

@[simp] theorem deeds_nil : deeds ([] : List (Event κ)) = [] := rfl

@[simp] theorem deeds_cons_noted (entry : Journal.Entry) (later : List (Event κ)) :
    deeds (.noted entry :: later) = deeds later := rfl

variable (s : State κ)

@[simp] theorem deeds_accepted (key : RowKey) (row : Action) (u : Update) :
    deeds (s.accepted key row u).events = deeds s.events ++ [.wrote u none] := by
  simp [State.accepted, deeds, Event.deed?]

@[simp] theorem deeds_refused (u : Update) (e : Error) :
    deeds (s.refused u e).events = deeds s.events ++ [.wrote u none] := by
  simp [State.refused, deeds, Event.deed?]

end Deeds

/-- Two runs have done the same, and the job's row is being worked on in both stores, with counts
that may differ. -/
structure Abreast (key : RowKey) (s t : State κ) : Prop where
  numbered : s.submissions = t.submissions
  done : deeds s.events = deeds t.events
  rows : ∃ a b, s.store.find key = some a ∧ t.store.find key = some b ∧
    a.status = .processing ∧ a.uncounted = b.uncounted

/-- Progress is attempted; taken or not, it leaves the row as it was but for the counts. -/
theorem Tally.deeds_writeProgress {site : Site} {s : State κ} {row : Action}
    (found : s.store.find site.key = some row) (t : Tally) (lost : Error → Journal.Entry) :
    deeds (t.writeProgress site lost s).events =
        deeds s.events ++ [.wrote t.counters.progress none] ∧
      ∃ next, (t.writeProgress site lost s).store.find site.key = some next ∧
        next.uncounted = row.uncounted := by
  rcases s.write_cases site t.counters.progress with
    ⟨present, same, admitted, written⟩ | ⟨e, written⟩
  · rw [t.writeProgress_of_accepted lost written]
    cases Option.some.inj (found.symm.trans same)
    exact ⟨deeds_accepted _ _ _ _, _, State.find_accepted _ _ _ _,
      row.uncounted_accept_progress _ _ _ _⟩
  · rw [t.writeProgress_of_refused lost written]
    exact ⟨by simp, row, found, rfl⟩

/-- Whatever progress is lost, a run stays abreast of the one that loses nothing. -/
theorem lockstep_abreast (site : Site) (limit : Nat) :
    Lockstep site site.reliable limit (Abreast (κ := κ) site.key) where
  projectId := rfl
  actionId := rfl
  numbered abreast := abreast.numbered
  submitted abreast := ⟨congrArg (· + 1) abreast.numbered, abreast.done, abreast.rows⟩
  record _ abreast := by
    refine ⟨abreast.numbered, ?_, abreast.rows⟩
    rw [State.events_record, State.events_record, deeds_append, deeds_append, abreast.done]
  progress := by
    intro s t tally lost _ abreast
    obtain ⟨a, b, found, present, processing, same⟩ := abreast.rows
    obtain ⟨done, next, stored, kept⟩ := tally.deeds_writeProgress found lost
    have there : t.store.find site.reliable.key = some b := present
    obtain ⟨doneAlso, other, storedAlso, keptAlso⟩ := tally.deeds_writeProgress there lost
    refine ⟨by simpa using abreast.numbered, by rw [done, doneAlso, abreast.done], next, other,
      stored, storedAlso, ?_, ?_⟩
    · rw [Action.status_of_uncounted kept, processing]
    · rw [kept, same, keptAlso]

/-- Every write was accepted, and the job's row is being worked on. -/
structure Unrefused (key : RowKey) (s : State κ) : Prop where
  accepted : ∀ w ∈ writes s.events, w.2 = none
  underway : ∃ row, s.store.find key = some row ∧ row.status = .processing

theorem none_refused_of_accepted {s : State κ} (accepted : ∀ w ∈ writes s.events, w.2 = none)
    (key : RowKey) (row : Action) (u : Update) :
    ∀ w ∈ writes (s.accepted key row u).events, w.2 = none := by
  intro w member
  rw [writes_accepted] at member
  rcases List.mem_append.mp member with earlier | last
  · exact accepted w earlier
  · rw [List.mem_singleton.mp last]

/-- Progress that can be counted is never refused. -/
theorem steady_unrefused {site : Site} (undisturbed : site.Undisturbed) {limit : Nat}
    (countable : limit < Action.countLimit) :
    Steady site limit (Unrefused (κ := κ) site.key) where
  submitted unrefused := ⟨unrefused.accepted, unrefused.underway⟩
  record quiet unrefused := by
    refine ⟨?_, unrefused.underway⟩
    rw [State.events_record, writes_append, quiet, List.append_nil]
    exact unrefused.accepted
  progress := by
    intro s tally lost within unrefused
    obtain ⟨row, found, processing⟩ := unrefused.underway
    have counted := within.counted
    have total := within.total
    have admitted : row.Admits tally.counters.progress :=
      (row.admits_progress_iff _ _ _).mpr fun _ => ⟨by omega, counted⟩
    rw [tally.writeProgress_of_accepted lost (State.write_of_admits undisturbed found admitted)]
    exact ⟨none_refused_of_accepted unrefused.accepted _ _ _, _, State.find_accepted _ _ _ _, processing⟩

namespace Runner

/-- The state of a run whose first write was taken by this row. -/
def begun (r : Runner ρ κ) (store : Store) (row : Action) : State κ :=
  (State.ofStore store).accepted r.site.key (row.accept r.opening r.site.now) r.opening

/-- The last write is attempted, whether it is taken or not. -/
theorem deeds_close (r : Runner ρ κ) (worked : State κ × Tally) :
    deeds (r.close worked).1.events = deeds worked.1.events ++ [.wrote (r.lastWrite worked.2) none] := by
  rcases r.close_cases worked with ⟨a, _, _, closed⟩ | ⟨e, closed⟩ <;> simp [closed]

/-- The same run over a store that loses nothing. -/
def reliably (r : Runner ρ κ) : Runner ρ κ := r.moved r.site.reliable

theorem site_reliably (r : Runner ρ κ) : r.reliably.site = r.site.reliable := r.site_moved _

theorem key_reliably (r : Runner ρ κ) : r.reliably.site.key = r.site.key := by
  rw [site_reliably]
  rfl

theorem undisturbed_reliably (r : Runner ρ κ) : r.reliably.site.Undisturbed := by
  rw [site_reliably]
  exact r.site.undisturbed_reliable

theorem opening_reliably (r : Runner ρ κ) : r.reliably.opening = r.opening := r.opening_moved _

theorem outcome_reliably (r : Runner ρ κ) (t : Tally) : r.reliably.outcome t = r.outcome t :=
  r.outcome_moved _ t

theorem begun_reliably (r : Runner ρ κ) (store : Store) (row : Action) :
    r.reliably.begun store row = r.begun store row := by
  cases r <;> rfl

theorem lastWrite_reliably (r : Runner ρ κ) (t : Tally) :
    r.reliably.lastWrite t = r.lastWrite t := by
  cases r <;> rfl

theorem size_reliably (r : Runner ρ κ) : r.reliably.size = r.size := by
  cases r <;> rfl

section Runs

variable [Path.Evaluator] {r : Runner ρ κ} {store : Store} {row : Action}

/-- A run begins with a row that takes its first write, or ends with the refusal of this write. -/
theorem begins_or_refused (r : Runner ρ κ) (store : Store) :
    (∃ row, store.find r.site.key = some row ∧ row.Admits r.opening ∧
      r.run (.ofStore store) = r.close (r.work (r.begun store row))) ∨
    ∃ e, r.run (.ofStore store) = ((State.ofStore store).refused r.opening e, .error e) :=
  r.run_cases (.ofStore store)

section Undisturbed

variable (undisturbed : r.site.Undisturbed) (found : store.find r.site.key = some row)
  (admitted : row.Admits r.opening)

include undisturbed found admitted

theorem run_of_admits : r.run (.ofStore store) = r.close (r.work (r.begun store row)) :=
  run_of_started (State.write_of_admits undisturbed found admitted)

/-- Over a store that loses nothing, a run that begins ends well as long as its records can be
counted, and all of its writes are accepted. -/
theorem run_unrefused (countable : r.size < Action.countLimit) :
    ∃ s last, r.run (.ofStore store) = (s, .ok (r.outcome (r.work (r.begun store row)).2)) ∧
      (∀ w ∈ writes s.events, w.2 = none) ∧
      (r.work (r.begun store row)).1.store.find r.site.key = some last ∧
      s.store.find r.site.key =
        some (last.accept (r.lastWrite (r.work (r.begun store row)).2) r.site.now) := by
  have unwritten : ∀ w ∈ writes (State.ofStore (κ := κ) store).events, w.2 = none := by
    simp [State.ofStore]
  have begins : Unrefused r.site.key (r.begun store row) :=
    ⟨none_refused_of_accepted unwritten _ _ _, _, State.find_accepted _ _ _ _,
      r.status_accept_opening _ _⟩
  obtain ⟨accepted, last, present, processing⟩ :=
    steady_work (steady_unrefused undisturbed countable) begins (Nat.le_refl _)
  have takes : last.Admits (r.lastWrite (r.work (r.begun store row)).2) :=
    admits_lastWrite processing countable
  have closed := close_of_accepted (State.write_of_admits undisturbed present takes)
  refine ⟨_, last, (run_of_admits undisturbed found admitted).trans closed, ?_, present,
    State.find_accepted _ _ _ _⟩
  rw [State.events_note, writes_append, writes_cons_noted, writes_nil, List.append_nil]
  exact none_refused_of_accepted accepted _ _ _

end Undisturbed

/-- A run that has begun works alike whatever progress is lost. -/
theorem together_reliably (r : Runner ρ κ) (store : Store) (row : Action) :
    Together (Abreast r.site.key) (r.work (r.begun store row))
      (r.reliably.work (r.begun store row)) := by
  have abreast : Abreast r.site.key (r.begun store row) (r.begun store row) :=
    ⟨rfl, rfl, _, _, State.find_accepted _ _ _ _, State.find_accepted _ _ _ _,
      r.status_accept_opening _ _, rfl⟩
  exact together_work (lockstep_abreast r.site r.size) abreast (Nat.le_refl _)

section Admitted

variable (found : store.find r.site.key = some row) (admitted : row.Admits r.opening)

include found admitted

theorem run_reliably_of_admits :
    r.reliably.run (.ofStore store) = r.reliably.close (r.reliably.work (r.begun store row)) := by
  rw [← begun_reliably]
  apply run_of_admits r.undisturbed_reliably
  · rw [key_reliably]
    exact found
  · rw [opening_reliably]
    exact admitted

/-- What a run does once it has begun is what it does over a store that loses nothing. -/
theorem deeds_reliably :
    deeds (r.close (r.work (r.begun store row))).1.events =
      deeds (r.reliably.run (.ofStore store)).1.events := by
  obtain ⟨abreast, same⟩ := r.together_reliably store row
  rw [run_reliably_of_admits found admitted, deeds_close, deeds_close, lastWrite_reliably,
    abreast.done, same]

/-- Over such a store the run ends well, with the row that the last write makes of any row that is
behind in its counts only. -/
theorem run_reliably (countable : r.size < Action.countLimit) {last : Action}
    (present : (r.work (r.begun store row)).1.store.find r.site.key = some last) :
    ∃ t, r.reliably.run (.ofStore store) =
        (t, .ok (r.outcome (r.work (r.begun store row)).2)) ∧
      (∀ w ∈ writes t.events, w.2 = none) ∧
      t.store.find r.site.key =
        some (last.accept (r.lastWrite (r.work (r.begun store row)).2) r.site.now) := by
  obtain ⟨abreast, same⟩ := r.together_reliably store row
  obtain ⟨a, b, own, other, _, rows⟩ := abreast.rows
  cases Option.some.inj (present.symm.trans own)
  obtain ⟨t, c, ran, accepted, there, stored⟩ := run_unrefused r.undisturbed_reliably
    (r.key_reliably ▸ found) (r.opening_reliably ▸ admitted) (r.size_reliably ▸ countable)
  rw [begun_reliably, ← same, outcome_reliably] at ran
  rw [begun_reliably, site_reliably] at there
  rw [begun_reliably, site_reliably, lastWrite_reliably, ← same] at stored
  cases Option.some.inj (other.symm.trans there)
  refine ⟨t, ran, accepted, stored.trans ?_⟩
  exact congrArg some (Action.accept_finished_of_uncounted rows _ _ _ _ _ _ _).symm

end Admitted

/-- Progress may be lost. If the first and the last write of a run are accepted, then whichever others
are refused, the run does what it does over a store that loses nothing: the same calls, items taken
and attempted writes in the same order. It reports the same outcome and leaves the same row. Over the
other store every write is accepted. -/
theorem lost_progress_keeps_result (r : Runner ρ κ) (store : Store)
    (opened : firstAnswer (r.run (.ofStore store)).1.events = some none)
    (closed : lastAnswer (r.run (.ofStore store)).1.events = some none) :
    ∃ s t o row, r.run (.ofStore store) = (s, .ok o) ∧
      r.reliably.run (.ofStore store) = (t, .ok o) ∧
      (∀ w ∈ writes t.events, w.2 = none) ∧
      deeds s.events = deeds t.events ∧
      s.store.find r.site.key = some row ∧ t.store.find r.site.key = some row := by
  rcases r.begins_or_refused store with ⟨row, found, admitted, ran⟩ | ⟨e, refused⟩
  · have did := deeds_reliably found admitted
    rcases r.close_cases (r.work (r.begun store row)) with
      ⟨last, present, takes, ended⟩ | ⟨e, refused⟩
    · obtain ⟨t, reliably, accepted, stored⟩ :=
        run_reliably found admitted (countable_of_admits takes) present
      rw [ended, reliably] at did
      exact ⟨_, t, _, _, ran.trans ended, reliably, accepted, did, State.find_accepted _ _ _ _,
        stored⟩
    · rw [ran, refused] at closed
      simp [lastAnswer] at closed
  · rw [refused] at opened
    simp [firstAnswer, State.ofStore] at opened

end Runs

/-- The chunks of the sample run, of whose progress nothing is written. -/
def unrecordedRun : Runner Unit Unit :=
  .chunked (Chunked.sampleRun.moved { sampleSite with
    failingWrite := fun number _ =>
      if number = 1 ∨ number = 2 then some (.database "busy") else none }) Chunked.sampleRecords

theorem lost_progress_keeps_result_unrecorded :
    firstAnswer (unrecordedRun.run (.ofStore sampleStore)).1.events = some none ∧
    lastAnswer (unrecordedRun.run (.ofStore sampleStore)).1.events = some none ∧
    (writes (unrecordedRun.run (.ofStore sampleStore)).1.events).map Prod.snd =
      [none, some (.database "busy"), some (.database "busy"), none] ∧
    ∃ s t o row, unrecordedRun.run (.ofStore sampleStore) = (s, .ok o) ∧
      unrecordedRun.reliably.run (.ofStore sampleStore) = (t, .ok o) ∧
      (∀ w ∈ writes t.events, w.2 = none) ∧
      deeds s.events = deeds t.events ∧
      s.store.find unrecordedRun.site.key = some row ∧
      t.store.find unrecordedRun.site.key = some row := by
  have opened : firstAnswer (unrecordedRun.run (.ofStore sampleStore)).1.events = some none := rfl
  have closed : lastAnswer (unrecordedRun.run (.ofStore sampleStore)).1.events = some none := rfl
  exact ⟨opened, closed, rfl, lost_progress_keeps_result unrecordedRun sampleStore opened closed⟩

end Runner

end BulkActions.Run
