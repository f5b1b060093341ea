import BulkActions.Proofs.Run.Clock
import BulkActions.Proofs.Run.Processor

/-! A job that was interrupted and is processed again. The first write of a run starts the status and
the counts of the row over, whatever they were; from there on the run is that of a queued job, but
for the times. -/

namespace BulkActions.Job.Action

/-- The job as it was before it was ever begun, as far as its status and counts go. -/
def requeued (a : Action) : Action :=
  { a with status := .queued, total := 0, processed := 0, failed := 0 }

variable {a b : Action}

/-- The first write leaves nothing of the old status and counts. -/
theorem accept_started_requeued (a : Action) (total : Nat) (now : Instant) :
    a.requeued.accept (.started total) now = a.accept (.started total) now := rfl

theorem requeued_undated (a : Action) : a.undated.requeued = a.requeued.undated := rfl

theorem admits_started (unfinished : a.status.isTerminal = false) (total : Nat) :
    a.Admits (.started total) where
  moves next named := by
    cases Option.some.inj named
    cases status : a.status <;> simp_all [Status.isTerminal] <;> rfl
  ends := by simp [Update.started]
  counts _ := by simp [nextProcessed, nextFailed, Update.started, countLimit]

end BulkActions.Job.Action

namespace BulkActions.Run

open Dataset Job

variable {κ : Type}

/-- Two states that are alike but for the status and counts of the job's row, which is unfinished in
both. -/
structure Restarts (key : RowKey) (a b : Action) (s t : State κ) : Prop where
  submissions : s.submissions = t.submissions
  events : s.events.map Event.undated = t.events.map Event.undated
  found : s.store.find key = some a
  present : t.store.find key = some b
  unfinished : a.status.isTerminal = false
  unended : b.status.isTerminal = false
  same : a.requeued.undated = b.requeued.undated

section Begin

variable {key : RowKey} {a b : Action} {s t : State κ}

theorem Restarts.record (restarts : Restarts key a b s t) (events : List (Event κ)) :
    Restarts key a b (s.record events) (t.record events) :=
  { restarts with
    events := by
      rw [State.events_record, State.events_record, List.map_append, List.map_append,
        restarts.events] }

/-- The first write of a run makes the two states alike. -/
theorem Restarts.write_started {site : Site} (undisturbed : site.Undisturbed) (later : Instant)
    (restarts : Restarts site.key a b s t) (total : Nat) :
    ∃ s' t' row other, s.write site (.started total) = (s', .ok row) ∧
      t.write (site.retimed later) (.started total) = (t', .ok other) ∧ Alike site.key s' t' := by
  have still : (site.retimed later).Undisturbed := undisturbed
  have started := Action.accept_eq_of_undated restarts.same
    (u := .started total) (v := .started total) rfl site.now later
  rw [Action.accept_started_requeued, Action.accept_started_requeued] at started
  refine ⟨_, _, _, _,
    State.write_of_admits undisturbed restarts.found (a.admits_started restarts.unfinished total),
    State.write_of_admits still restarts.present (b.admits_started restarts.unended total),
    restarts.submissions, ?_, _, _, State.find_accepted _ _ _ _, State.find_accepted _ _ _ _,
    started⟩
  simp only [State.accepted, List.map_append, restarts.events]

end Begin

namespace Processor

/-- The same processor at another time. -/
def retimed (p : Processor) (later : Instant) : Processor := { p with site := p.site.retimed later }

theorem agree_ofRun {key : RowKey} {x y : State ScheduleCall × Except Error Outcome}
    (agree : Agree key x y) : Agree key (ofRun x) (ofRun y) :=
  ⟨agree.1, congrArg (Except.map some) agree.2⟩

variable {p : Processor} {a b : Action} {s t : State ScheduleCall}

/-- A job that can start is processed alike whatever its status and counts were. -/
theorem agree_start [Path.Evaluator] (undisturbed : p.site.Undisturbed) (later : Instant)
    (starts : p.Starts b) (restarts : Restarts p.site.key a b s t) :
    Agree p.site.key (p.start a s) ((p.retimed later).start b t) := by
  obtain ⟨_, _, _, kind, _, query, config, _⟩ := Job.Action.mk.inj restarts.same
  simp only [Action.requeued] at kind query config
  have asked (call : SelectorCall) : Restarts p.site.key a b (p.asked a call s)
      ((p.retimed later).asked b call t) := by
    have noted := restarts.record [.noted (p.processingEntry b.kind)]
    rw [Processor.asked, kind]
    exact noted.record [.selected call]
  cases starts with
  | @observations params records parsed selected =>
    obtain ⟨s', t', row, other, first, second, alike⟩ :=
      (asked (.observations p.site.projectId b.query)).write_started undisturbed later
        records.length
    rw [start_of_observations (by rw [kind, config, parsed]) (by rw [query, selected]),
      start_of_observations (p := p.retimed later) parsed selected, query]
    exact agree_ofRun (Runner.agree_run (r := .chunked (p.datasetRun params) records) undisturbed
      later first second alike)
  | @subjects params stream parsed selected =>
    obtain ⟨s', t', row, other, first, second, alike⟩ :=
      (asked (.subjects p.site.projectId b.query)).write_started undisturbed later 0
    rw [start_of_subjects (by rw [kind, config, parsed]) (by rw [query, selected]),
      start_of_subjects (p := p.retimed later) parsed selected, query]
    exact agree_ofRun (Runner.agree_run (r := .streamed (p.evaluationRun params) stream) undisturbed
      later first second alike)

/-- A job that can start is left to be worked on, with any counts, and is processed again, over a
store that loses nothing. The same job while it was queued, with nothing counted, is processed alike:
the same outcome is reported, the same things happen in the same order, calls of the services and
writes among them, and the same row is left. Only the times differ. Both end with an outcome, as long
as a word can count the records. -/
theorem retry_runs_afresh [Path.Evaluator] (p : Processor) (later : Instant) {store rest : Store}
    {a b : Action} (undisturbed : p.site.Undisturbed) (readable : p.site.failingFind = none)
    (starts : p.Starts b) (queued : store.find p.site.key = some a)
    (left : rest.find p.site.key = some b) (processing : b.status = .processing)
    (unlogged : b.log = none) (fresh : a.undated = b.requeued.undated) :
    ∃ s t answer,
      p.process (.ofStore store) = (s, answer) ∧
      (p.retimed later).process (.ofStore rest) = (t, answer) ∧
      s.events.map Event.undated = t.events.map Event.undated ∧
      (∃ c d, s.store.find p.site.key = some c ∧ t.store.find p.site.key = some d ∧
        c.undated = d.undated) ∧
      (p.services.Countable → ∃ o, answer = .ok (some o) ∧ Ended p.site t.store o) := by
  have waiting : a.status = .queued := congrArg (fun row : Action => row.status) fresh
  have unfinished : a.status.isTerminal = false := by rw [waiting]; rfl
  have unended : b.status.isTerminal = false := by rw [processing]; rfl
  have restarts : Restarts p.site.key a b (.ofStore store : State ScheduleCall) (.ofStore rest) :=
    { submissions := rfl
      events := rfl
      found := queued
      present := left
      unfinished := unfinished
      unended := unended
      same := by rw [← Action.requeued_undated, fresh, Action.requeued_undated]; rfl }
  obtain ⟨alike, same⟩ := agree_start undisturbed later starts restarts
  rw [process_of_unfinished readable queued unfinished,
    process_of_unfinished (p := p.retimed later) readable left unended]
  refine ⟨(p.start a (.ofStore store)).1, ((p.retimed later).start b (.ofStore rest)).1,
    (p.start a (.ofStore store)).2, rfl, Prod.ext rfl same.symm, alike.events, alike.row, ?_⟩
  intro countable
  have again : (p.retimed later).Starts b := by
    cases starts with
    | observations parsed selected => exact .observations parsed selected
    | subjects parsed selected => exact .subjects parsed selected
  have ready : Ready (p.retimed later).site (State.ofStore rest : State ScheduleCall).store :=
    ⟨undisturbed, b, left, .inr processing, unlogged⟩
  obtain ⟨t, o, ran, ended⟩ := again.ends ready countable
  rw [same, ran]
  exact ⟨o, rfl, ended⟩

/-- The selector gives a subject, and an error in the place of another one. -/
def openProcessor : Processor :=
  { sampleProcessor with
    services := { sampleProcessor.services with
      subjects := fun _ _ => .ok [.ok ⟨"t", none⟩, .error (.selection "gone")] } }

theorem retry_runs_afresh_counted :
    openProcessor.site.Undisturbed ∧ openProcessor.site.failingFind = none ∧
    openProcessor.Starts sampleJob ∧
    (Store.empty.insert sampleJob.requeued).find openProcessor.site.key = some sampleJob.requeued ∧
    (Store.empty.insert sampleJob).find openProcessor.site.key = some sampleJob ∧
    sampleJob.status = .processing ∧ sampleJob.log = none ∧
    sampleJob.requeued.undated = sampleJob.requeued.undated ∧
    ∃ s t o,
      openProcessor.process (.ofStore (Store.empty.insert sampleJob.requeued)) =
        (s, .ok (some o)) ∧
      (openProcessor.retimed ⟨1, 0, 0⟩).process (.ofStore (Store.empty.insert sampleJob)) =
        (t, .ok (some o)) ∧
      s.events.map Event.undated = t.events.map Event.undated ∧
      Ended openProcessor.site t.store o := by
  have undisturbed : openProcessor.site.Undisturbed := fun _ _ => rfl
  have parsed : Params.parse sampleJob.kind sampleJob.config = .ok (.runEvaluation ⟨["e"]⟩) := rfl
  have starts : openProcessor.Starts sampleJob := .subjects parsed rfl
  have countable : openProcessor.services.Countable :=
    ⟨countable_sampleProcessor.observations, fun _ _ _ selected => by cases selected; decide⟩
  have queued : (Store.empty.insert sampleJob.requeued).find openProcessor.site.key =
    some sampleJob.requeued := rfl
  have left : (Store.empty.insert sampleJob).find openProcessor.site.key = some sampleJob := rfl
  obtain ⟨s, t, answer, first, second, events, _, ends⟩ :=
    retry_runs_afresh openProcessor ⟨1, 0, 0⟩ undisturbed rfl starts queued left rfl rfl rfl
  obtain ⟨o, rfl, ended⟩ := ends countable
  exact ⟨undisturbed, rfl, starts, queued, left, rfl, rfl, rfl, s, t, o, first, second, events, ended⟩

end Processor

end BulkActions.Run
