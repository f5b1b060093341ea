import BulkActions.Proofs.Run.Runner
import BulkActions.Run.Crash

/-! How a job ends. Whichever way a processed job takes, its row is left at its end and holds the
outcome that is reported; a job that cannot start is ended by a single write. -/

namespace BulkActions.Run

open Dataset Job

variable {κ : Type}

/-- Progress keeps a job underway as long as its records can be counted. -/
theorem steady_underway {site : Site} (undisturbed : site.Undisturbed) {limit : Nat}
    (countable : limit < Action.countLimit) :
    Steady site limit fun s : State κ => Underway site s.store where
  submitted underway := underway
  record _ underway := underway
  progress _ lost within underway :=
    (Tally.writeProgress_underway lost undisturbed underway
      ⟨within.counted, Nat.lt_of_le_of_lt within.total countable⟩).1

/-- A run from any state in which it can begin ends its row. -/
theorem Runner.run_ends [Path.Evaluator] {ρ : Type} (r : Runner ρ κ) {s : State κ}
    (ready : Ready r.site s.store) (countable : r.size < Action.countLimit) :
    ∃ s' outcome, r.run s = (s', .ok outcome) ∧ Ended r.site s'.store outcome := by
  obtain ⟨row, started, underway⟩ : ∃ row,
      s.write r.site r.opening = (s.accepted r.site.key row r.opening, .ok row) ∧
        Underway r.site (s.accepted r.site.key row r.opening).store := by
    cases r with
    | chunked r records => exact State.write_started ready records.length
    | streamed r stream => exact State.write_started ready 0
  generalize s.accepted r.site.key row r.opening = begun at started underway
  have worked : Underway r.site (r.work begun).1.store :=
    steady_work (steady_underway ready.undisturbed countable) underway (Nat.le_refl _)
  obtain ⟨total, settled⟩ := r.counted_work begun
  have fit : (r.work begun).2.counters.Fit := ⟨by omega, by omega⟩
  rw [run_of_started started]
  cases r with
  | chunked r records =>
    obtain ⟨s', finished, _, ended⟩ := Tally.finish_ends ready.undisturbed worked fit
      (Chunked.headline _) r.summary r.done
    exact ⟨s', _, finished, ended⟩
  | streamed r stream =>
    obtain ⟨s', finished, _, ended⟩ := Tally.finish_ends ready.undisturbed worked fit
      (r.headline _) r.summary r.done
    exact ⟨s', _, finished, ended⟩

/-- A job that is queued or being worked on, with no log yet and no more counted than there is. -/
structure Pending (a : Action) : Prop where
  unfinished : a.status = .queued ∨ a.status = .processing
  unlogged : a.log = none
  counted : 0 < a.total → a.processed + a.failed ≤ a.total
  countable : a.total < Action.countLimit

theorem Pending.not_terminal {a : Action} (pending : Pending a) : a.status.isTerminal = false := by
  rcases pending.unfinished with queued | processing
  · rw [queued]; rfl
  · rw [processing]; rfl

theorem Pending.ready {a : Action} (pending : Pending a) {site : Site} {store : Store}
    (undisturbed : site.Undisturbed) (found : store.find site.key = some a) : Ready site store :=
  ⟨undisturbed, a, found, pending.unfinished, pending.unlogged⟩

theorem Pending.admits_failedBeforeStart {a : Action} (pending : Pending a) (log : String)
    (now : Instant) : a.Admits (.failedBeforeStart log now) where
  moves next named := by
    cases Option.some.inj named
    rcases pending.unfinished with queued | processing
    · rw [queued]; rfl
    · rw [processing]; rfl
  ends _ := rfl
  counts known :=
    have within := pending.counted known
    ⟨Nat.lt_of_le_of_lt within pending.countable, within⟩

/-- What the selector gives is no longer than a word can count. -/
structure Services.Countable (services : Services) : Prop where
  observations : ∀ projectId query records,
    services.observations projectId query = .ok records → records.length < Action.countLimit
  subjects : ∀ projectId query stream,
    services.subjects projectId query = .ok stream → stream.length < Action.countLimit

namespace Processor

/-- The job cannot start, for this reason: its parameters do not parse, or the records of its kind
cannot be selected. -/
inductive Barred (p : Processor) (a : Action) : String → Prop where
  | params {e : Job.Error} (malformed : Params.parse a.kind a.config = .error e) :
      Barred p a (paramsReason e)
  | observations {params : DatasetParams} {e : Job.Error}
      (parsed : Params.parse a.kind a.config = .ok (.addToDataset params))
      (failed : p.services.observations p.site.projectId a.query = .error e) :
      Barred p a (selectionReason e)
  | subjects {params : EvaluationParams} {e : Job.Error}
      (parsed : Params.parse a.kind a.config = .ok (.runEvaluation params))
      (failed : p.services.subjects p.site.projectId a.query = .error e) :
      Barred p a (selectionReason e)

theorem Barred.unique {p : Processor} {a : Action} {reason other : String}
    (first : p.Barred a reason) (second : p.Barred a other) : reason = other := by
  cases first <;> cases second <;> simp_all

/-- The parameters of the job parse, and the records of its kind are selected. -/
inductive Starts (p : Processor) (a : Action) : Prop where
  | observations {params : DatasetParams} {records : List Observation}
      (parsed : Params.parse a.kind a.config = .ok (.addToDataset params))
      (selected : p.services.observations p.site.projectId a.query = .ok records) : p.Starts a
  | subjects {params : EvaluationParams} {stream : List (StreamItem Subject)}
      (parsed : Params.parse a.kind a.config = .ok (.runEvaluation params))
      (selected : p.services.subjects p.site.projectId a.query = .ok stream) : p.Starts a

theorem Starts.not_barred {p : Processor} {a : Action} (starts : p.Starts a) (reason : String) :
    ¬ p.Barred a reason := by
  intro barred
  cases starts <;> cases barred <;> simp_all

theorem barred_or_starts (p : Processor) (a : Action) : (∃ reason, p.Barred a reason) ∨ p.Starts a := by
  cases parsed : Params.parse a.kind a.config with
  | error e => exact .inl ⟨_, .params parsed⟩
  | ok params =>
    cases params with
    | addToDataset params =>
      cases selected : p.services.observations p.site.projectId a.query with
      | error e => exact .inl ⟨_, .observations parsed selected⟩
      | ok records => exact .inr (.observations parsed selected)
    | runEvaluation params =>
      cases selected : p.services.subjects p.site.projectId a.query with
      | error e => exact .inl ⟨_, .subjects parsed selected⟩
      | ok stream => exact .inr (.subjects parsed selected)

/-- The job was ended by a single write, and neither the sink nor the scheduler was called. -/
structure EndedAtOnce (p : Processor) (reason : String) (s : State ScheduleCall) (o : Outcome) :
    Prop where
  status : o.status = .failed
  log : o.log = some reason
  written : writes s.events = [(.failedBeforeStart reason p.site.now, none)]
  unsubmitted : submissions s.events = []
  uncalled : calls s.events = []

/-- An outcome is reported and the job's row is left with it, by a single write if the job could not
start. -/
def Ends (p : Processor) (a : Action) (result : Result) : Prop :=
  ∃ s outcome, result = (s, .ok (some outcome)) ∧ Ended p.site s.store outcome ∧
    ∀ reason, p.Barred a reason → p.EndedAtOnce reason s outcome

/-- Nothing was written or called yet. -/
structure Quiet (events : List (Event κ)) : Prop where
  unwritten : writes events = []
  unsubmitted : submissions events = []
  uncalled : calls events = []

theorem quiet_nil : Quiet ([] : List (Event κ)) := ⟨rfl, rfl, rfl⟩

theorem quiet_noted (entry : Journal.Entry) : Quiet ([.noted entry] : List (Event κ)) :=
  ⟨rfl, rfl, rfl⟩

theorem quiet_selected (call : SelectorCall) : Quiet ([.selected call] : List (Event κ)) :=
  ⟨rfl, rfl, rfl⟩

theorem Quiet.append {earlier later : List (Event κ)} (first : Quiet earlier)
    (second : Quiet later) : Quiet (earlier ++ later) where
  unwritten := by rw [writes_append, first.unwritten, second.unwritten]; rfl
  unsubmitted := by rw [submissions_append, first.unsubmitted, second.unsubmitted]; rfl
  uncalled := by rw [calls_append, first.uncalled, second.uncalled]; rfl

/-- What a run reports is reported of its job. -/
def ofRun (result : State ScheduleCall × Except Job.Error Outcome) : Result :=
  (result.1, result.2.map some)

section Start

variable [Path.Evaluator] {p : Processor} {a : Action}

theorem start_of_observations {params : DatasetParams} {records : List Observation}
    (parsed : Params.parse a.kind a.config = .ok (.addToDataset params))
    (selected : p.services.observations p.site.projectId a.query = .ok records)
    (s : State ScheduleCall) :
    p.start a s =
      ofRun ((.chunked (p.datasetRun params) records : Runner Subject ScheduleCall).run
        (p.asked a (.observations p.site.projectId a.query) s)) := by
  simp only [start, parsed, runDataset, selected]
  rfl

theorem start_of_subjects {params : EvaluationParams} {stream : List (StreamItem Subject)}
    (parsed : Params.parse a.kind a.config = .ok (.runEvaluation params))
    (selected : p.services.subjects p.site.projectId a.query = .ok stream)
    (s : State ScheduleCall) :
    p.start a s =
      ofRun ((.streamed (p.evaluationRun params) stream : Runner Subject ScheduleCall).run
        (p.asked a (.subjects p.site.projectId a.query) s)) := by
  simp only [start, parsed, runEvaluation, selected]
  rfl

/-- Nothing is written or called before a job fails that cannot start. -/
theorem start_of_barred {reason : String} (barred : p.Barred a reason) (s : State ScheduleCall) :
    ∃ before : State ScheduleCall, before.store = s.store ∧
      (Quiet s.events → Quiet before.events) ∧
      p.start a s = p.failBeforeStart a reason before := by
  have noted (quiet : Quiet s.events) := quiet.append (quiet_noted (p.processingEntry a.kind))
  cases barred with
  | params malformed =>
    refine ⟨s, rfl, id, ?_⟩
    simp only [start, malformed]
  | observations parsed failed =>
    refine ⟨p.asked a (.observations p.site.projectId a.query) s, rfl,
      fun quiet => (noted quiet).append (quiet_selected _), ?_⟩
    simp only [start, parsed, runDataset, failed]
    rfl
  | subjects parsed failed =>
    refine ⟨p.asked a (.subjects p.site.projectId a.query) s, rfl,
      fun quiet => (noted quiet).append (quiet_selected _), ?_⟩
    simp only [start, parsed, runEvaluation, failed]
    rfl

/-- A job that can start is brought to its end, whatever its row has counted before. -/
theorem Starts.ends {s : State ScheduleCall} (starts : p.Starts a) (ready : Ready p.site s.store)
    (countable : p.services.Countable) :
    ∃ s' o, p.start a s = (s', .ok (some o)) ∧ Ended p.site s'.store o := by
  cases starts with
  | @observations params records parsed selected =>
    have begins : Ready p.site (p.asked a (.observations p.site.projectId a.query) s).store := ready
    obtain ⟨s', o, ran, ended⟩ :=
      (.chunked (p.datasetRun params) records : Runner Subject ScheduleCall).run_ends begins
        (countable.observations _ _ _ selected)
    exact ⟨s', o, by rw [start_of_observations parsed selected, ran]; rfl, ended⟩
  | @subjects params stream parsed selected =>
    have begins : Ready p.site (p.asked a (.subjects p.site.projectId a.query) s).store := ready
    obtain ⟨s', o, ran, ended⟩ :=
      (.streamed (p.evaluationRun params) stream : Runner Subject ScheduleCall).run_ends begins
        (countable.subjects _ _ _ selected)
    exact ⟨s', o, by rw [start_of_subjects parsed selected, ran]; rfl, ended⟩

end Start

section Ways

variable {p : Processor} {a : Action} {s : State ScheduleCall}
  (undisturbed : p.site.Undisturbed) (found : s.store.find p.site.key = some a)
  (pending : Pending a) (quiet : Quiet s.events)

include undisturbed found pending quiet

theorem write_failedBeforeStart (reason : String) :
    ∃ s' row, s.write p.site (.failedBeforeStart reason p.site.now) = (s', .ok row) ∧
      Ended p.site s'.store row.outcome ∧ p.EndedAtOnce reason s' row.outcome := by
  refine ⟨_, _, State.write_of_admits undisturbed found
    (pending.admits_failedBeforeStart reason p.site.now), ⟨_, State.find_accepted _ _ _ _, rfl, ?_,
    rfl⟩, ?_⟩
  · cases earlier : a.finishedAt <;> simp [Action.accept, Update.failedBeforeStart, earlier]
  · constructor
    · rfl
    · rfl
    · rw [State.accepted, writes_append, quiet.unwritten]; rfl
    · rw [State.accepted, submissions_append, quiet.unsubmitted]; rfl
    · rw [State.accepted, calls_append, quiet.uncalled]; rfl

variable (own : p.site.key = ⟨a.projectId, a.id⟩)

include own

/-- A job that cannot start is ended by one write. -/
theorem failBeforeStart_ends {reason : String} (barred : p.Barred a reason) :
    p.Ends a (p.failBeforeStart a reason s) := by
  have noted := (quiet.append (quiet_noted (failedEntry a reason))).append
    (quiet_noted (Journal.fault "batch_action_processor" "process" reason (some a.id)))
  have kept : ((s.note (failedEntry a reason)).note (Journal.fault "batch_action_processor"
      "process" reason (some a.id))).store.find p.site.key = some a := found
  obtain ⟨s', row, written, ended, once⟩ :=
    write_failedBeforeStart undisturbed kept pending noted reason
  rw [State.write, own] at written
  refine ⟨s', row.outcome, by simp only [failBeforeStart, written], ended, ?_⟩
  intro other also
  rw [← barred.unique also]
  exact once

variable (countable : p.services.Countable)

include countable

/-- A job that is not finished yet is brought to its end. -/
theorem start_ends [Path.Evaluator] : p.Ends a (p.start a s) := by
  rcases p.barred_or_starts a with ⟨reason, barred⟩ | starts
  · obtain ⟨before, kept, undone, same⟩ := start_of_barred barred s
    rw [same]
    exact failBeforeStart_ends undisturbed (kept ▸ found) pending (undone quiet) own barred
  · obtain ⟨s', o, ran, ended⟩ := starts.ends (pending.ready undisturbed found) countable
    exact ⟨s', o, ran, ended, fun reason barred => absurd barred (starts.not_barred reason)⟩

end Ways

section Stored

variable {p : Processor} {store : Store} {a : Action} (readable : p.site.failingFind = none)
  (found : store.find p.site.key = some a)

include readable found

theorem find_ofStore : p.find (.ofStore store) = .ok a := by
  simp only [find, readable, State.ofStore, found]

theorem process_of_unfinished [Path.Evaluator] (unfinished : a.status.isTerminal = false) :
    p.process (.ofStore store) = p.start a (.ofStore store) := by
  simp only [process, find_ofStore readable found, unfinished, Bool.false_eq_true, ↓reduceIte]

end Stored

/-- Processing a job that is queued or being worked on, over a store that loses nothing, reports an
outcome, and the job's row is left at its end with just that outcome, whatever the services answer.
Where the parameters do not parse or no records can be selected, the job fails by a single write,
and neither the sink nor the scheduler is called. -/
theorem process_ends_with_stored_outcome [Path.Evaluator] (p : Processor) {store : Store} {a : Action}
    (undisturbed : p.site.Undisturbed) (readable : p.site.failingFind = none)
    (countable : p.services.Countable) (keyed : store.Keyed)
    (found : store.find p.site.key = some a) (pending : Pending a) :
    ∃ s outcome, p.process (.ofStore store) = (s, .ok (some outcome)) ∧
      Ended p.site s.store outcome ∧
      ∀ reason, p.Barred a reason → p.EndedAtOnce reason s outcome := by
  rw [process_of_unfinished readable found pending.not_terminal]
  exact start_ends undisturbed found pending quiet_nil (keyed _ a found) countable

/-- A selector that gives no subjects of an evaluation. -/
def sampleProcessor : Processor where
  site := sampleSite
  settings := {}
  services :=
    { observations := fun _ _ => .ok []
      subjects := fun _ _ => .error (.selection "down")
      sink := fun _ _ => .error (.sink "unused")
      scheduler := ⟨fun _ _ _ => none, fun _ _ _ => 0⟩ }

/-- A job with parameters in order, which was begun once and counted two of three records. -/
def sampleJob : Action :=
  { NewAction.create ⟨"p", "u", .runEvaluation, .null, .obj [("evaluatorIds", .arr [.str "e"])]⟩
      "a" ⟨0, 0, 0⟩ with
    status := .processing, total := 3, processed := 1, failed := 1 }

theorem countable_sampleProcessor : sampleProcessor.services.Countable where
  observations _ _ records selected := by
    cases selected
    decide
  subjects _ _ _ selected := nomatch selected

theorem pending_sampleJob : Pending sampleJob :=
  ⟨.inr rfl, rfl, by decide, by decide⟩

theorem process_ends_with_stored_outcome_unselected :
    sampleProcessor.site.Undisturbed ∧ sampleProcessor.site.failingFind = none ∧
    sampleProcessor.services.Countable ∧ (Store.empty.insert sampleJob).Keyed ∧
    (Store.empty.insert sampleJob).find sampleProcessor.site.key = some sampleJob ∧
    Pending sampleJob ∧
    ∃ s outcome,
      sampleProcessor.process (.ofStore (Store.empty.insert sampleJob)) = (s, .ok (some outcome)) ∧
      Ended sampleProcessor.site s.store outcome ∧
      sampleProcessor.EndedAtOnce "Failed to select records: Selection error: down" s outcome := by
  have undisturbed : sampleProcessor.site.Undisturbed := fun _ _ => rfl
  have keyed : (Store.empty.insert sampleJob).Keyed := Store.keyed_empty.insert sampleJob
  have found : (Store.empty.insert sampleJob).find sampleProcessor.site.key = some sampleJob := rfl
  have parsed : Params.parse sampleJob.kind sampleJob.config = .ok (.runEvaluation ⟨["e"]⟩) := rfl
  have failed : sampleProcessor.services.subjects sampleProcessor.site.projectId sampleJob.query =
    .error (.selection "down") := rfl
  have barred : sampleProcessor.Barred sampleJob
      "Failed to select records: Selection error: down" := .subjects parsed failed
  obtain ⟨s, outcome, processed, ended, atOnce⟩ := process_ends_with_stored_outcome sampleProcessor
    undisturbed rfl countable_sampleProcessor keyed found pending_sampleJob
  exact ⟨undisturbed, rfl, countable_sampleProcessor, keyed, found, pending_sampleJob, s, outcome,
    processed, ended, atOnce _ barred⟩

end Processor

end BulkActions.Run
