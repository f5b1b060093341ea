import BulkActions.Proofs.Run.State

/-! The three kinds of writes of a run, on a row that takes them: the first makes the row underway,
progress keeps it so, and the last leaves it with the outcome. -/

namespace BulkActions.Run

open Job

variable {κ : Type} {s : State κ} {site : Site}

theorem State.find_accepted (s : State κ) (key : RowKey) (row : Action) (u : Update) :
    (s.accepted key row u).store.find key = some row := by
  simp [accepted, Store.find_written]

/-- The first write is accepted where a run can begin, and restarts the counts of the row. -/
theorem State.write_started (ready : Ready site s.store) (total : Nat) :
    ∃ row : Action, s.write site (.started total) =
        (s.accepted site.key row (.started total), .ok row) ∧
      Underway site (s.accepted site.key row (.started total)).store := by
  obtain ⟨row, found, unfinished, unlogged⟩ := ready.row
  have admitted : row.Admits (.started total) := by
    refine ⟨?_, by simp [Update.started], ?_⟩
    · intro next named
      cases Option.some.inj named
      rcases unfinished with queued | processing
      · rw [queued]; rfl
      · rw [processing]; rfl
    · intro _
      simp [Action.nextProcessed, Action.nextFailed, Update.started, Action.countLimit]
  refine ⟨_, State.write_of_admits ready.undisturbed found admitted, _, find_accepted _ _ _ _, rfl,
    ?_⟩
  simp [Action.accept, Update.started, unlogged]

/-- The write that ends a run with this outcome. -/
def Tally.finalWrite (now : Instant) (o : Outcome) : Update :=
  .finished o.status o.total o.processed o.failed o.log now

/-- The last write of a run asks for this outcome; unless the write is refused, the run reports it. -/
def Concludes (now : Instant) (result : State κ × Except Error Outcome) (o : Outcome) : Prop :=
  ∃ refusal, (writes result.1.events).getLast? = some (Tally.finalWrite now o, refusal) ∧
    result.2 = match refusal with
      | none => .ok o
      | some e => .error e

namespace Tally

variable (t : Tally) (lost : Error → Journal.Entry)

theorem writeProgress_of_accepted {next : State κ} {row : Action}
    (written : s.write site t.counters.progress = (next, .ok row)) :
    t.writeProgress site lost s = next := by
  simp only [writeProgress, written]

theorem writeProgress_of_refused {next : State κ} {e : Error}
    (written : s.write site t.counters.progress = (next, .error e)) :
    t.writeProgress site lost s = next.note (lost e) := by
  simp only [writeProgress, written]

@[simp] theorem submissions_writeProgress (site : Site) (s : State κ) :
    (t.writeProgress site lost s).submissions = s.submissions := by
  rcases s.write_cases site t.counters.progress with ⟨row, _, _, written⟩ | ⟨e, written⟩
  · rw [t.writeProgress_of_accepted lost written]
    rfl
  · rw [t.writeProgress_of_refused lost written]
    rfl

/-- Whatever becomes of it, writing progress submits nothing. -/
theorem submissions_events_writeProgress (site : Site) (s : State κ) :
    submissions (t.writeProgress site lost s).events = submissions s.events := by
  rcases s.write_cases site t.counters.progress with ⟨row, _, _, written⟩ | ⟨e, written⟩
  · simp [t.writeProgress_of_accepted lost written, State.accepted, submissions]
  · simp [t.writeProgress_of_refused lost written, State.refused, submissions]

section Finish

variable (headline : String) (settings : SummarySettings) (done : Outcome → Journal.Entry)

theorem finish_of_accepted {next : State κ} {row : Action}
    (written : s.write site (finalWrite site.now (t.outcome headline settings)) =
      (next, .ok row)) :
    t.finish site headline settings done s =
      (next.note (done (t.outcome headline settings)), .ok (t.outcome headline settings)) := by
  simp only [finalWrite] at written
  simp only [finish, written]

theorem finish_of_refused {next : State κ} {e : Error}
    (written : s.write site (finalWrite site.now (t.outcome headline settings)) =
      (next, .error e)) :
    t.finish site headline settings done s = (next, .error e) := by
  simp only [finalWrite] at written
  simp only [finish, written]

/-- The last write submits nothing either. -/
theorem submissions_events_finish (s : State κ) :
    submissions (t.finish site headline settings done s).1.events = submissions s.events := by
  rcases s.write_cases site (finalWrite site.now (t.outcome headline settings)) with
    ⟨row, _, _, written⟩ | ⟨e, written⟩
  · simp [t.finish_of_accepted _ _ done written, State.accepted, submissions]
  · simp [t.finish_of_refused _ _ done written, State.refused, submissions]

end Finish

/-- The last write asks for the outcome; the answer is the outcome, or the refusal of this write. -/
theorem concludes_finish (site : Site) (headline : String) (settings : SummarySettings)
    (done : Outcome → Journal.Entry) (s : State κ) :
    Concludes site.now (t.finish site headline settings done s) (t.outcome headline settings) := by
  rcases s.write_cases site (finalWrite site.now (t.outcome headline settings)) with
    ⟨row, _, _, written⟩ | ⟨e, written⟩
  · rw [t.finish_of_accepted _ _ done written]
    exact ⟨none, by simp [State.accepted, writes], rfl⟩
  · rw [t.finish_of_refused _ _ done written]
    exact ⟨some e, by simp [State.refused, writes], rfl⟩

variable {t}

/-- The row of a job that is being worked on takes the last write of a run. -/
theorem admits_finalWrite {row : Action} (processing : row.status = .processing)
    (fit : t.counters.Fit) (headline : String) (settings : SummarySettings) (now : Instant) :
    row.Admits (finalWrite now (t.outcome headline settings)) := by
  refine fit.admits ?_ (fun _ => Status.isTerminal_ofCounts _ _) rfl rfl rfl
  intro next named
  cases Option.some.inj named
  exact Status.canMoveTo_ofCounts (by rw [processing]; rfl) _ _

theorem writeProgress_underway (undisturbed : site.Undisturbed) (underway : Underway site s.store)
    (fit : t.counters.Fit) :
    Underway site (t.writeProgress site lost s).store ∧
      (t.writeProgress site lost s).events = s.events ++ [.wrote t.counters.progress none] := by
  obtain ⟨row, found, processing, unlogged⟩ := underway
  have admitted : row.Admits t.counters.progress :=
    fit.admits (by simp [Counters.progress, Update.progress])
      (by simp [Counters.progress, Update.progress]) rfl rfl rfl
  simp only [writeProgress, State.write_of_admits undisturbed found admitted]
  refine ⟨⟨_, State.find_accepted _ _ _ _, processing, ?_⟩, rfl⟩
  simp [Action.accept, Counters.progress, Update.progress, unlogged]

/-- The last write is accepted on a row that is underway, and ends it with the outcome. -/
theorem finish_ends (undisturbed : site.Undisturbed) (underway : Underway site s.store)
    (fit : t.counters.Fit) (headline : String) (settings : SummarySettings)
    (done : Outcome → Journal.Entry) :
    ∃ s' : State κ, t.finish site headline settings done s =
        (s', .ok (t.outcome headline settings)) ∧
      s'.events = s.events ++ [.wrote (finalWrite site.now (t.outcome headline settings)) none,
        .noted (done (t.outcome headline settings))] ∧
      Ended site s'.store (t.outcome headline settings) := by
  obtain ⟨row, found, processing, unlogged⟩ := underway
  have written := State.write_of_admits (κ := κ) undisturbed found
    (admits_finalWrite processing fit headline settings site.now)
  refine ⟨_, t.finish_of_accepted _ _ done written, by simp [State.accepted], _,
    State.find_accepted _ _ _ _, Status.isTerminal_ofCounts _ _, ?_, ?_⟩
  · cases earlier : row.finishedAt <;> simp [Action.accept, finalWrite, Update.finished, earlier]
  · simp [Action.outcome, Action.accept, Action.nextStatus, Action.nextTotal, Action.nextProcessed,
      Action.nextFailed, finalWrite, Update.finished, unlogged]

/-- In particular the row holds the outcome. -/
theorem finish_underway (undisturbed : site.Undisturbed) (underway : Underway site s.store)
    (fit : t.counters.Fit) (headline : String) (settings : SummarySettings)
    (done : Outcome → Journal.Entry) :
    ∃ s' : State κ, t.finish site headline settings done s =
        (s', .ok (t.outcome headline settings)) ∧
      s'.events = s.events ++ [.wrote (finalWrite site.now (t.outcome headline settings)) none,
        .noted (done (t.outcome headline settings))] ∧
      (s'.store.find site.key).map Action.outcome = some (t.outcome headline settings) := by
  obtain ⟨s', finished, events, row, found, _, _, same⟩ :=
    finish_ends undisturbed underway fit headline settings done
  exact ⟨s', finished, events, by rw [found, Option.map_some, same]⟩

theorem log_outcome_eq_none_iff (t : Tally) (headline : String) (settings : SummarySettings) :
    (t.outcome headline settings).log = none ↔ (t.outcome headline settings).failed = 0 := by
  simp [outcome, Counters.outcome, summary]

end Tally

end BulkActions.Run
