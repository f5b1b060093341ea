import BulkActions.Proofs.Job.Calls

/-! The history of a store, replayed. The updates accepted of a row bring it from the values it was
placed with to those it has. The history names a job by its id alone, so that of two jobs with one id
in different projects each finds the updates of the other among its own. -/

namespace BulkActions.Job

namespace Action

/-- The key at which a row stands. -/
def key (a : Action) : RowKey := ⟨a.projectId, a.id⟩

/-- Applies updates in order, as long as each of them is accepted. -/
def replay (now : Instant) : Action → List Update → Except Error Action
  | a, [] => .ok a
  | a, u :: rest =>
    match a.update u now with
    | (b, .ok ()) => b.replay now rest
    | (_, .error e) => .error e

theorem replay_append (now : Instant) (a : Action) (earlier later : List Update) :
    a.replay now (earlier ++ later) = (a.replay now earlier).bind fun b => b.replay now later := by
  induction earlier generalizing a with
  | nil => rfl
  | cons u rest ih =>
    rw [List.cons_append, replay, replay]
    rcases a.update u now with ⟨b, e | ⟨⟩⟩
    · rfl
    · exact ih b

/-- When a row was last changed makes no difference to an update. -/
theorem update_of_admits_retouched {a : Action} {u : Update} (admitted : a.Admits u)
    (touched before now : Instant) :
    { a with updatedAt := touched }.update u now =
      ({ a.accept u before with updatedAt := now }, .ok ()) :=
  update_of_admits (a := { a with updatedAt := touched }) ⟨admitted.1, admitted.2, admitted.3⟩ now

/-- The updates lead from `first` to `row`, but for the time of the last change. -/
def Replays (first : Action) (updates : List Update) (row : Action) : Prop :=
  ∀ now, ∃ touched, first.replay now updates = .ok { row with updatedAt := touched }

theorem Replays.nil (a : Action) : a.Replays [] a := fun _ => ⟨a.updatedAt, rfl⟩

theorem Replays.snoc {first row : Action} {updates : List Update} {u : Update}
    (replays : first.Replays updates row) (admitted : row.Admits u) (time : Instant) :
    first.Replays (updates ++ [u]) (row.accept u time) := by
  intro now
  obtain ⟨touched, reached⟩ := replays now
  refine ⟨now, ?_⟩
  rw [replay_append, reached]
  change replay now _ [u] = _
  simp only [replay, update_of_admits_retouched admitted touched time now]

end Action

/-- What changes a store. A creation brings the id it was given. -/
inductive Change where
  | insert (a : Action)
  | create (new : NewAction) (id : String) (now : Instant)
  | update (key : RowKey) (u : Update) (now : Instant)

/-- The row a change places, as it is placed. -/
def Change.placed? : Change → Option Action
  | .insert a => some a
  | .create new id now => some (new.create id now)
  | .update _ _ _ => none

/-- The rows that changes place. -/
def placements (changes : List Change) : List Action := changes.filterMap Change.placed?

/-- No row is placed twice, whether inserted or created. -/
def PlacedOnce (changes : List Change) : Prop := ((placements changes).map Action.key).Nodup

instance (changes : List Change) : Decidable (PlacedOnce changes) :=
  inferInstanceAs (Decidable (List.Nodup _))

/-- The updates of one row among updates of many. -/
def updatesOf (key : RowKey) (accepted : List (RowKey × Update)) : List Update :=
  (accepted.filter fun entry => entry.1 = key).map Prod.snd

theorem updatesOf_append (key : RowKey) (earlier later : List (RowKey × Update)) :
    updatesOf key (earlier ++ later) = updatesOf key earlier ++ updatesOf key later := by
  simp [updatesOf]

theorem placements_append (earlier later : List Change) :
    placements (earlier ++ later) = placements earlier ++ placements later := by
  simp [placements]

namespace Store

def changed (s : Store) : Change → Store
  | .insert a => s.insert a
  | .create new id now => s.after (.create new id now)
  | .update key u now => s.after (.update key u now)

/-- The update a change makes, with the key of its row, if it is accepted. -/
def accepted (s : Store) : Change → List (RowKey × Update)
  | .update key u now =>
    match s.update key u now with
    | (_, .ok _) => [(key, u)]
    | (_, .error _) => []
  | _ => []

def changedAll (s : Store) (changes : List Change) : Store := changes.foldl changed s

def acceptedAll (s : Store) : List Change → List (RowKey × Update)
  | [] => []
  | change :: rest => s.accepted change ++ (s.changed change).acceptedAll rest

/-- What is known of a store after changes that began with an empty one: the history holds the
accepted updates in order, and those of a row lead to it from its placement. -/
structure Recorded (s : Store) (changes : List Change) (log : List (RowKey × Update)) : Prop where
  history : s.history = log.map fun entry => (entry.1.actionId, entry.2)
  known : ∀ entry ∈ log, ∃ a ∈ placements changes, a.key = entry.1
  rows : ∀ key row, s.find key = some row →
    ∃ first ∈ placements changes, first.key = key ∧ first.Replays (updatesOf key log) row

theorem recorded_empty : empty.Recorded [] [] where
  history := rfl
  known _ member := nomatch member
  rows _ _ found := nomatch found

/-- A change places a row, or is an update that a row admits, or has no effect. -/
theorem changed_cases (s : Store) (change : Change) :
    (∃ a, change.placed? = some a ∧ s.changed change = s.insert a ∧ s.accepted change = []) ∨
    (∃ key u now row, s.find key = some row ∧ row.Admits u ∧
      s.changed change = s.written key (row.accept u now) u ∧ s.accepted change = [(key, u)]) ∨
    (s.changed change = s ∧ s.accepted change = []) := by
  cases change with
  | insert a => exact .inl ⟨a, rfl, rfl, rfl⟩
  | create new id now => exact .inl ⟨new.create id now, rfl, rfl, rfl⟩
  | update key u now =>
    right
    rcases s.update_cases key u now with ⟨row, found, admitted, updated⟩ | ⟨e, refused⟩
    · exact .inl ⟨key, u, now, row, found, admitted, by simp [changed, after, updated],
        by simp [accepted, updated]⟩
    · exact .inr ⟨by simp [changed, after, refused], by simp [accepted, refused]⟩

section Steps

variable {s : Store} {changes : List Change} {log : List (RowKey × Update)}

/-- A row that updates were accepted of was placed before. -/
theorem Recorded.updatesOf_eq_nil (recorded : s.Recorded changes log) {key : RowKey}
    (absent : key ∉ (placements changes).map Action.key) : updatesOf key log = [] := by
  have none : log.filter (fun entry => entry.1 = key) = [] := by
    apply List.filter_eq_nil_iff.mpr
    intro entry member same
    obtain ⟨a, placed, own⟩ := recorded.known entry member
    exact absent (List.mem_map.mpr ⟨a, placed, own.trans (of_decide_eq_true same)⟩)
  rw [updatesOf, none, List.map_nil]

theorem Recorded.of_subset (recorded : s.Recorded changes log) {more : List Change}
    (placed : placements changes ⊆ placements more) : s.Recorded more log where
  history := recorded.history
  known entry member := by
    obtain ⟨a, before, own⟩ := recorded.known entry member
    exact ⟨a, placed before, own⟩
  rows key row found := by
    obtain ⟨first, before, own, replays⟩ := recorded.rows key row found
    exact ⟨first, placed before, own, replays⟩

/-- A row that is placed has no updates behind it. -/
theorem Recorded.insert (recorded : s.Recorded changes log) {a : Action}
    (placed : a ∈ placements changes) (unwritten : updatesOf a.key log = []) :
    (s.insert a).Recorded changes log where
  history := recorded.history
  known := recorded.known
  rows key row found := by
    rw [find_insert] at found
    split at found
    · rename_i own
      subst own
      cases Option.some.inj found
      exact ⟨a, placed, rfl, (congrArg (a.Replays · a) unwritten).mpr (.nil a)⟩
    · exact recorded.rows key row found

/-- An accepted update comes last in the history, and among the updates of its own row alone. -/
theorem Recorded.written (recorded : s.Recorded changes log) {key : RowKey} {row : Action}
    {u : Update} (found : s.find key = some row) (admitted : row.Admits u) (now : Instant) :
    (s.written key (row.accept u now) u).Recorded changes (log ++ [(key, u)]) where
  history := by simp [Store.written, recorded.history]
  known entry member := by
    rcases List.mem_append.mp member with earlier | last
    · exact recorded.known entry earlier
    · obtain ⟨first, placed, own, _⟩ := recorded.rows key row found
      exact ⟨first, placed, by rw [List.mem_singleton.mp last]; exact own⟩
  rows other present stored := by
    rw [find_written] at stored
    rw [updatesOf_append]
    split at stored
    · rename_i same
      subst same
      cases Option.some.inj stored
      obtain ⟨first, placed, own, replays⟩ := recorded.rows other row found
      exact ⟨first, placed, own, by simpa [updatesOf] using replays.snoc admitted now⟩
    · rename_i apart
      obtain ⟨first, placed, own, replays⟩ := recorded.rows other present stored
      exact ⟨first, placed, own, by simpa [updatesOf, Ne.symm apart] using replays⟩

/-- One change keeps the record, as long as it places no row a second time. -/
theorem Recorded.changed (recorded : s.Recorded changes log) (change : Change)
    (fresh : ∀ a, change.placed? = some a → a.key ∉ (placements changes).map Action.key) :
    (s.changed change).Recorded (changes ++ [change]) (log ++ s.accepted change) := by
  have before : s.Recorded (changes ++ [change]) log := recorded.of_subset (by
    rw [placements_append]
    exact List.subset_append_left _ _)
  rcases s.changed_cases change with
    ⟨a, places, next, accepts⟩ | ⟨key, u, now, row, found, admitted, next, accepts⟩ |
    ⟨next, accepts⟩
  · rw [next, accepts, List.append_nil]
    exact before.insert (by simp [placements, places])
      (recorded.updatesOf_eq_nil (fresh a places))
  · rw [next, accepts]
    exact before.written found admitted now
  · rw [next, accepts, List.append_nil]
    exact before

/-- So do any changes that place no row a second time. -/
theorem Recorded.changedAll {later : List Change} (recorded : s.Recorded changes log)
    (once : PlacedOnce (changes ++ later)) :
    (s.changedAll later).Recorded (changes ++ later) (log ++ s.acceptedAll later) := by
  induction later generalizing s changes log with
  | nil => simpa [Store.changedAll, acceptedAll] using recorded
  | cons change rest ih =>
    have fresh : ∀ a, change.placed? = some a → a.key ∉ (placements changes).map Action.key := by
      intro a places again
      rw [PlacedOnce, placements_append, List.map_append, List.nodup_append] at once
      exact once.2.2 a.key again a.key (by simp [placements, places]) rfl
    have next := ih (recorded.changed change fresh) (by simpa using once)
    simpa [Store.changedAll, acceptedAll] using next

/-- The history of an id is that of a row exactly if no update of another row of this id was
accepted. -/
theorem Recorded.historyOf_eq_updatesOf_iff (recorded : s.Recorded changes log) (key : RowKey) :
    s.historyOf key.actionId = updatesOf key log ↔
      ∀ other u, (other, u) ∈ log → other.actionId = key.actionId → other = key := by
  have shared : s.historyOf key.actionId =
      (log.filter fun entry => entry.1.actionId = key.actionId).map Prod.snd := by
    rw [historyOf, recorded.history, List.filter_map, List.map_map]
    rfl
  have part : (log.filter fun entry => entry.1 = key) =
      (log.filter fun entry => entry.1.actionId = key.actionId).filter
        fun entry => entry.1 = key := by
    rw [List.filter_filter]
    apply List.filter_congr
    intro entry _
    by_cases same : entry.1 = key <;> simp [same]
  rw [shared, updatesOf, part]
  constructor
  · intro same other u member together
    have sizes := congrArg List.length same
    rw [List.length_map, List.length_map] at sizes
    have whole := List.filter_eq_self.mp (List.filter_sublist.eq_of_length sizes.symm)
    exact of_decide_eq_true
      (whole (other, u) (List.mem_filter.mpr ⟨member, decide_eq_true together⟩))
  · intro alone
    congr 1
    refine (List.filter_eq_self.mpr ?_).symm
    intro entry member
    obtain ⟨present, together⟩ := List.mem_filter.mp member
    exact decide_eq_true (alone entry.1 entry.2 present (of_decide_eq_true together))

end Steps

/-- Rows are inserted and created, none of them twice, and updated in any order; some updates are
refused. Those accepted of a row, in order, lead from its placement to what it is now, and no step of
them is refused. They are what the history holds of its id exactly if no other row of this id, in
another project, was updated. -/
theorem own_updates_replay {changes : List Change} (once : PlacedOnce changes) {key : RowKey}
    {row : Action} (found : (empty.changedAll changes).find key = some row) :
    (∃ first ∈ placements changes, first.key = key ∧
      first.Replays (updatesOf key (empty.acceptedAll changes)) row) ∧
    ((empty.changedAll changes).historyOf key.actionId =
        updatesOf key (empty.acceptedAll changes) ↔
      ∀ other u, (other, u) ∈ empty.acceptedAll changes →
        other.actionId = key.actionId → other = key) := by
  have start : empty.Recorded [] [] := recorded_empty
  have recorded : (empty.changedAll changes).Recorded changes (empty.acceptedAll changes) :=
    start.changedAll once
  exact ⟨recorded.rows key row found, recorded.historyOf_eq_updatesOf_iff key⟩

/-- A job that has the same id in every project. -/
def sharedJob (projectId : String) : Action :=
  NewAction.create ⟨projectId, "u", .addToDataset, .null, .null⟩ "a" ⟨0, 0, 0⟩

/-- Of two such jobs the first one is begun; the second one refuses a count too many. -/
def sharedChanges : List Change :=
  [.insert (sharedJob "p"), .insert (sharedJob "q"),
    .update ⟨"p", "a"⟩ (.started 1) ⟨1, 0, 0⟩,
    .update ⟨"q", "a"⟩ (.progress 1 1 1) ⟨2, 0, 0⟩]

theorem own_updates_replay_shared_id :
    PlacedOnce sharedChanges ∧
    (empty.changedAll sharedChanges).find ⟨"p", "a"⟩ =
      some ((sharedJob "p").accept (.started 1) ⟨1, 0, 0⟩) ∧
    (∃ first ∈ placements sharedChanges, first.key = ⟨"p", "a"⟩ ∧
      first.Replays (updatesOf ⟨"p", "a"⟩ (empty.acceptedAll sharedChanges))
        ((sharedJob "p").accept (.started 1) ⟨1, 0, 0⟩)) ∧
    ((empty.changedAll sharedChanges).historyOf "a" =
        updatesOf ⟨"p", "a"⟩ (empty.acceptedAll sharedChanges) ↔
      ∀ other u, (other, u) ∈ empty.acceptedAll sharedChanges →
        other.actionId = "a" → other = ⟨"p", "a"⟩) :=
  have once : PlacedOnce sharedChanges := by decide
  have found : (empty.changedAll sharedChanges).find ⟨"p", "a"⟩ =
      some ((sharedJob "p").accept (.started 1) ⟨1, 0, 0⟩) := rfl
  ⟨once, found, own_updates_replay once found⟩

/-- The second job is still queued, and nothing of it was counted; but the history of its id says
that it was begun. -/
theorem shared_id_history_leads_astray :
    PlacedOnce sharedChanges ∧ sharedJob "q" ∈ placements sharedChanges ∧
    (empty.changedAll sharedChanges).find ⟨"q", "a"⟩ = some (sharedJob "q") ∧
    (sharedJob "q").outcome = ⟨.queued, 0, 0, 0, none⟩ ∧
    ((sharedJob "q").replay ⟨3, 0, 0⟩
      ((empty.changedAll sharedChanges).historyOf "a")).map Action.outcome =
        .ok ⟨.processing, 1, 0, 0, none⟩ :=
  ⟨by decide, .tail _ (.head _), rfl, rfl, rfl⟩

end Store

end BulkActions.Job
