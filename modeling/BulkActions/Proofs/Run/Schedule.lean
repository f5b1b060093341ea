import BulkActions.Proofs.Run.Streamed

/-! A streamed run takes the steps of an agenda: its batches lie ahead in order, each with the work
on its own records, and at the end nothing is left of them. -/

namespace BulkActions.Run

open Job

variable {ρ κ : Type}

section Between

variable {limit : Nat} {a b c : Agenda κ} {s t u : State κ}

/-- What happens from one state to another takes the steps from one agenda to another. -/
def Takes (limit : Nat) (a : Agenda κ) (s : State κ) (b : Agenda κ) (t : State κ) : Prop :=
  ∃ events, t.events = s.events ++ events ∧ Agenda.Steps limit a events b

theorem Takes.trans (first : Takes limit a s b t) (second : Takes limit b t c u) :
    Takes limit a s c u := by
  obtain ⟨earlier, start, steps⟩ := first
  obtain ⟨later, rest, more⟩ := second
  exact ⟨earlier ++ later, by rw [rest, start, List.append_assoc], steps.append more⟩

theorem takes_note (limit : Nat) (a : Agenda κ) (s : State κ) (entry : Journal.Entry) :
    Takes limit a s a (s.note entry) :=
  ⟨[.noted entry], rfl, .cons (.noted a entry) (.nil a)⟩

/-- Nothing is taken off what is left by a write, accepted or not. -/
theorem takes_write (limit : Nat) (a : Agenda κ) (s : State κ) (site : Site) (u : Update) :
    Takes limit a s a (s.write site u).1 := by
  rcases s.write_cases site u with ⟨row, _, _, written⟩ | ⟨e, written⟩
  · exact ⟨[.wrote u none], by rw [written]; rfl, .cons (.wrote a u none) (.nil a)⟩
  · exact ⟨[.wrote u (some e)], by rw [written]; rfl, .cons (.wrote a u (some e)) (.nil a)⟩

theorem Tally.takes_writeProgress (limit : Nat) (a : Agenda κ) (tally : Tally) (site : Site)
    (lost : Error → Journal.Entry) (s : State κ) :
    Takes limit a s a (tally.writeProgress site lost s) := by
  have written := takes_write limit a s site tally.counters.progress
  unfold writeProgress
  generalize s.write site tally.counters.progress = next at written
  obtain ⟨t, answer⟩ := next
  cases answer with
  | ok _ => exact written
  | error e => exact written.trans (takes_note limit a t (lost e))

theorem Tally.takes_finish (limit : Nat) (a : Agenda κ) (tally : Tally) (site : Site)
    (headline : String) (settings : SummarySettings) (done : Outcome → Journal.Entry)
    (s : State κ) : Takes limit a s a (tally.finish site headline settings done s).1 := by
  have written := takes_write limit a s site
    (finalWrite site.now (tally.outcome headline settings))
  simp only [finish]
  simp only [finalWrite] at written
  generalize s.write site _ = next at written ⊢
  obtain ⟨t, answer⟩ := next
  cases answer with
  | ok _ => exact written.trans (takes_note limit a t _)
  | error e => exact written

end Between

/-- The records among items numbered from `first` on, with their positions. -/
def recordsFrom (first : Nat) (items : List (StreamItem ρ)) : List (Nat × ρ) :=
  (items.zipIdx first).filterMap fun
    | (.ok record, index) => some (index, record)
    | (.error _, _) => none

@[simp] theorem recordsFrom_cons_error (first : Nat) (e : Error) (rest : List (StreamItem ρ)) :
    recordsFrom first (.error e :: rest) = recordsFrom (first + 1) rest := rfl

@[simp] theorem recordsFrom_cons_ok (first : Nat) (record : ρ) (rest : List (StreamItem ρ)) :
    recordsFrom first (.ok record :: rest) = (first, record) :: recordsFrom (first + 1) rest := rfl

theorem recordsFrom_append (first : Nat) (earlier later : List (StreamItem ρ)) :
    recordsFrom first (earlier ++ later) =
      recordsFrom first earlier ++ recordsFrom (first + earlier.length) later := by
  simp [recordsFrom, List.zipIdx_append]

theorem length_recordsFrom_le (first : Nat) (items : List (StreamItem ρ)) :
    (recordsFrom first items).length ≤ items.length :=
  Nat.le_trans (List.length_filterMap_le _ _) (Nat.le_of_eq List.length_zipIdx)

/-- A record stands where its position says. -/
theorem mem_recordsFrom_iff {first index : Nat} {record : ρ} {items : List (StreamItem ρ)} :
    (index, record) ∈ recordsFrom first items ↔
      first ≤ index ∧ items[index - first]? = some (.ok record) := by
  rw [recordsFrom, List.mem_filterMap]
  constructor
  · rintro ⟨⟨item, position⟩, present, kept⟩
    cases item with
    | error e => cases kept
    | ok own =>
      cases kept
      exact List.mem_zipIdx_iff_le_and_getElem?_sub.mp present
  · intro found
    exact ⟨(.ok record, index), List.mem_zipIdx_iff_le_and_getElem?_sub.mpr found, rfl⟩

theorem tasksOf_eq_map (operation : Operation ρ κ) (first : Nat) (items : List (StreamItem ρ)) :
    tasksOf operation first items = (recordsFrom first items).map fun (index, record) =>
      (index, operation.task index record) := by
  induction items generalizing first with
  | nil => rfl
  | cons item rest ih => cases item <;> simp [tasksOf, ih]

/-- The work on a record has ended. -/
def HasEnded (index : Nat) (events : List (Event κ)) : Prop :=
  index ∈ (completions events).map Prod.fst

/-- A stream is worked off in batches of `size`. Never are more than `limit` records under way at
once, and before a batch is taken or one of its records begins, earlier batches are done with. -/
structure Paced (limit size : Nat) (stream : List (StreamItem ρ)) (events : List (Event κ)) :
    Prop where
  overlap : ∀ earlier later, events = earlier ++ later →
    (unfinished earlier).length ≤ limit ∧ (unfinished earlier).length ≤ size
  during : ∀ earlier e later index call, events = earlier ++ e :: later →
    e = .called index call ∨ e = .returned index call → index ∈ unfinished earlier
  pulls : pulls events = (pieces size stream).map List.length
  pulled : ∀ earlier count later, events = earlier ++ .pulled count :: later →
    unfinished earlier = [] ∧
    ∀ index record, (index, record) ∈ recordsFrom 0 stream →
      index / size < (Run.pulls earlier).length → HasEnded index earlier
  began : ∀ earlier index later, events = earlier ++ .began index :: later →
    index / size + 1 = (Run.pulls earlier).length ∧
    ∀ other record, (other, record) ∈ recordsFrom 0 stream →
      other / size < index / size → HasEnded other earlier

namespace Streamed

/-- What becomes of a record. -/
def verdict (r : Streamed ρ κ) (index : Nat) (record : ρ) : Option Error :=
  (r.operation.task index record).failure

/-- What is to be done for a record. -/
def workOn (r : Streamed ρ κ) (index : Nat) (record : ρ) : Work κ where
  index := index
  calls := (r.operation.task index record).calls.map Prod.fst
  failure := r.verdict index record

/-- What is to be done for the records among items numbered from `first` on. -/
def worksOn (r : Streamed ρ κ) (first : Nat) (items : List (StreamItem ρ)) : List (Work κ) :=
  (recordsFrom first items).map fun (index, record) => r.workOn index record

/-- The batches of a stream, numbered on from `first`. -/
def batches (r : Streamed ρ κ) : Nat → List (List (StreamItem ρ)) → List (Batch κ)
  | _, [] => []
  | first, items :: rest =>
    ⟨items.length, r.worksOn first items⟩ :: r.batches (first + items.length) rest

/-- What a run begins with: all batches of the stream. -/
def agenda (r : Streamed ρ κ) (stream : List (StreamItem ρ)) : Agenda κ :=
  .fresh (r.batches 0 (pieces r.batchSize stream))

variable {r : Streamed ρ κ}

theorem map_work_tasksOf (r : Streamed ρ κ) (first : Nat) (items : List (StreamItem ρ)) :
    (tasksOf r.operation first items).map Pool.Waiting.work = r.worksOn first items := by
  simp [tasksOf_eq_map, worksOn, Function.comp_def, Pool.Waiting.work, workOn, verdict]

theorem map_index_worksOn (r : Streamed ρ κ) (first : Nat) (items : List (StreamItem ρ)) :
    (r.worksOn first items).map Work.index = (tasksOf r.operation first items).map Prod.fst := by
  simp [tasksOf_eq_map, worksOn, Function.comp_def, workOn]

/-- The records that count as processed are those whose verdict is no error. -/
theorem successes_eq (r : Streamed ρ κ) (first : Nat) (items : List (StreamItem ρ)) :
    r.successes first items =
      (recordsFrom first items).countP fun (index, record) => (r.verdict index record).isNone := by
  induction items generalizing first with
  | nil => rfl
  | cons item rest ih =>
    have tail := ih (first + 1)
    simp only [successes] at tail ⊢
    cases item with
    | error e => rw [ending_cons_error, recordsFrom_cons_error, tail]
    | ok record => rw [ending_cons_ok, recordsFrom_cons_ok, List.countP_cons, tail, verdict]

theorem works_batches (r : Streamed ρ κ) (first : Nat) (split : List (List (StreamItem ρ))) :
    (r.batches first split).flatMap Batch.works = r.worksOn first split.flatten := by
  induction split generalizing first with
  | nil => rfl
  | cons items rest ih => simp [batches, ih, worksOn, recordsFrom_append]

/-- No two records have one position. -/
theorem distinct_batches (r : Streamed ρ κ) (first : Nat) (split : List (List (StreamItem ρ))) :
    ((Agenda.fresh (r.batches first split)).results.map Prod.fst).Nodup := by
  have positions : (Agenda.fresh (r.batches first split)).results.map Prod.fst =
      (r.worksOn first split.flatten).map Work.index := by
    simp [Agenda.fresh, Agenda.results, Agenda.works, works_batches, Function.comp_def, Work.result]
  rw [positions, map_index_worksOn]
  exact nodup_tasksOf r.operation first split.flatten

theorem results_agenda (r : Streamed ρ κ) (stream : List (StreamItem ρ)) :
    (r.agenda stream).results = (r.worksOn 0 stream).map Work.result := by
  simp [agenda, Agenda.fresh, Agenda.results, Agenda.works, works_batches,
    flatten_pieces r.batchSize_pos]

theorem callsLeft_agenda (r : Streamed ρ κ) (stream : List (StreamItem ρ)) :
    (r.agenda stream).callsLeft = (r.worksOn 0 stream).flatMap Work.callsFor := by
  simp [agenda, Agenda.fresh, Agenda.callsLeft, Agenda.works, works_batches,
    flatten_pieces r.batchSize_pos]

theorem sizes_batches (r : Streamed ρ κ) (first : Nat) (split : List (List (StreamItem ρ))) :
    (r.batches first split).map Batch.size = split.map List.length := by
  induction split generalizing first with
  | nil => rfl
  | cons items rest ih => simp [batches, ih]

theorem length_works_le (r : Streamed ρ κ) {first size : Nat} {split : List (List (StreamItem ρ))}
    (fit : ∀ items ∈ split, items.length ≤ size) :
    ∀ batch ∈ r.batches first split, batch.works.length ≤ size := by
  induction split generalizing first with
  | nil => simp [batches]
  | cons items rest ih =>
    obtain ⟨own, others⟩ := List.forall_mem_cons.mp fit
    refine List.forall_mem_cons.mpr ⟨?_, ih others⟩
    simp only [worksOn, List.length_map]
    exact Nat.le_trans (length_recordsFrom_le first items) own

/-- The batch of a record follows from its position. -/
theorem index_div_batches (r : Streamed ρ κ) {size : Nat} (positive : 0 < size) (number : Nat)
    (items : List (StreamItem ρ)) :
    ∀ (later : Nat) (batch : Batch κ),
      (r.batches (number * size) (pieces size items))[later]? = some batch →
        ∀ w ∈ batch.works, w.index / size = number + later := by
  induction items using pieces_induction positive generalizing number with
  | nil => simp [batches]
  | piece items nonempty ih =>
    rw [pieces_of_ne_nil positive nonempty]
    intro later batch found w member
    cases later with
    | zero =>
      cases found
      obtain ⟨⟨index, record⟩, present, rfl⟩ := List.mem_map.mp member
      obtain ⟨lower, there⟩ := mem_recordsFrom_iff.mp present
      obtain ⟨within, _⟩ := List.getElem?_eq_some_iff.mp there
      rw [List.length_take] at within
      exact Nat.div_eq_of_lt_le (by simpa [workOn] using lower)
        (by simp only [workOn, Nat.succ_mul]; omega)
    | succ later =>
      rw [batches, List.getElem?_cons_succ] at found
      -- Only the last batch may be shorter than the others, and nothing comes after it.
      by_cases full : size ≤ items.length
      · rw [List.length_take_of_le full, ← Nat.succ_mul] at found
        have same := ih (number + 1) later batch found w member
        omega
      · rw [List.drop_of_length_le (by omega)] at found
        simp [batches] at found

theorem placed_agenda (r : Streamed ρ κ) (stream : List (StreamItem ρ)) :
    (r.agenda stream).Placed r.batchSize 0 where
  batch index member := by simp [agenda, Agenda.fresh] at member
  ahead later batch found := index_div_batches r r.batchSize_pos 0 stream later batch
    (by simpa [agenda, Agenda.fresh] using found)

/-- A batch is taken and all work on its records is done. -/
theorem takes_handle (r : Streamed ρ κ) (items : List (StreamItem ρ)) (s : State κ) (t : Tally)
    (rest : List (List (StreamItem ρ))) :
    Takes r.concurrency (.fresh (r.batches t.counters.total (items :: rest))) s
      (.fresh (r.batches (t.counters.total + items.length) rest)) (r.handle items s t).1 := by
  have distinct := distinct_batches r t.counters.total (items :: rest)
  simp only [batches, Agenda.fresh, Agenda.results, Agenda.works, List.flatMap_cons,
    List.nil_append] at distinct
  have taken : Agenda.Step r.concurrency (.fresh (r.batches t.counters.total (items :: rest)))
      (.pulled items.length) _ := .pulled _ _
  have done := Pool.steps_run r.concurrency_pos (tasksOf r.operation t.counters.total items)
    (r.batches (t.counters.total + items.length) rest)
    (by simpa [Pool.agenda, Agenda.results, Agenda.works, map_work_tasksOf] using distinct)
  simp only [Pool.agenda, map_work_tasksOf, List.map_nil] at done
  exact ⟨_, rfl, .cons taken done⟩

theorem takes_handleAll (r : Streamed ρ κ) (number : Nat) (split : List (List (StreamItem ρ)))
    (s : State κ) (t : Tally) :
    Takes r.concurrency (.fresh (r.batches t.counters.total split)) s (.fresh [])
      (r.handleAll number split s t).1 := by
  induction split generalizing number s t with
  | nil => exact ⟨[], (List.append_nil _).symm, .nil _⟩
  | cons items rest ih =>
    have handled := takes_handle r items s t rest
    rw [← total_handle r items s t] at handled
    rw [handleAll_cons]
    exact ((handled.trans (takes_note _ _ _ _)).trans
      (Tally.takes_writeProgress _ _ _ _ _ _)).trans (ih (number + 1) _ _)

/-- A run whose first write is accepted works off its whole agenda. -/
theorem takes_run {row : Action} {s : State κ}
    (accepted : (s.write r.site (.started 0)).2 = .ok row) (stream : List (StreamItem ρ)) :
    Takes r.concurrency (r.agenda stream) s (.fresh []) (r.run stream s).1 := by
  have first := takes_write r.concurrency (r.agenda stream) s r.site (.started 0)
  generalize written : s.write r.site (.started 0) = next at accepted first
  obtain ⟨next, answer⟩ := next
  cases accepted
  rw [run_of_started written]
  exact ((first.trans (takes_note _ _ _ _)).trans
    (takes_handleAll r 1 _ _ (.start 0 r.settings.maxRetainedErrors))).trans
    (Tally.takes_finish _ _ _ _ _ _ _ _)

/-- Steps that work off the whole agenda keep the pace. -/
theorem paced_of_steps {stream : List (StreamItem ρ)} {events : List (Event κ)}
    (steps : Agenda.Steps r.concurrency (r.agenda stream) events (.fresh [])) :
    Paced r.concurrency r.batchSize stream events := by
  have distinct := distinct_batches r 0 (pieces r.batchSize stream)
  have placed := placed_agenda r stream
  have expected : ∀ index record, (index, record) ∈ recordsFrom 0 stream →
      (index, r.verdict index record) ∈ (r.agenda stream).results := by
    intro index record present
    rw [results_agenda]
    exact List.mem_map_of_mem (List.mem_map_of_mem present)
  constructor
  · intro earlier later moment
    rw [moment] at steps
    have bound := Agenda.length_unfinished_le steps distinct
      (length_works_le r (length_le_of_mem_pieces r.batchSize_pos))
    omega
  · intro earlier e later index call moment during
    rw [moment] at steps
    exact Agenda.mem_unfinished_of_call steps distinct during
  · have taken := steps.sizes
    simpa [agenda, Agenda.fresh, sizes_batches] using taken
  · intro earlier count later moment
    rw [moment] at steps
    obtain ⟨idle, done⟩ := Agenda.ended_of_pulled steps distinct placed
    exact ⟨idle, fun index record present before =>
      List.mem_map_of_mem (done _ (expected index record present) before)⟩
  · intro earlier index later moment
    rw [moment] at steps
    obtain ⟨own, done⟩ := Agenda.ended_of_began steps placed
    exact ⟨own, fun other record present before =>
      List.mem_map_of_mem (done _ (expected other record present) before)⟩

/-- A run whose first write is accepted makes the calls of every record of its stream and brings the
work on each to its end, batch by batch. -/
theorem run_works_off {row : Action} {s : State κ}
    (accepted : (s.write r.site (.started 0)).2 = .ok row) (stream : List (StreamItem ρ)) :
    ∃ events, (r.run stream s).1.events = s.events ++ events ∧
      (callsMade events).Perm ((r.worksOn 0 stream).flatMap Work.callsFor) ∧
      (completions events).Perm ((r.worksOn 0 stream).map Work.result) ∧
      Paced r.concurrency r.batchSize stream events := by
  obtain ⟨events, added, steps⟩ := takes_run accepted stream
  have called := steps.callsLeft
  have ended := steps.results
  rw [callsLeft_agenda] at called
  rw [results_agenda] at ended
  simp only [Agenda.fresh, Agenda.callsLeft, Agenda.results, Agenda.works, List.flatMap_nil,
    List.append_nil, List.map_nil] at called ended
  exact ⟨events, added, called, ended, paced_of_steps steps⟩

end Streamed

end BulkActions.Run
