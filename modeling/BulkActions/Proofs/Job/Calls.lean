import BulkActions.Proofs.Job.Store

/-! Jobs kept in a store under any sequence of calls. One lemma says what a single call can do to a
row, in each direction; the invariants of a whole sequence follow by induction. -/

namespace BulkActions.Job

/-- What can be asked of a store. A creation brings the id it was given. -/
inductive Call where
  | create (new : NewAction) (id : String) (now : Instant)
  | find (key : RowKey)
  | update (key : RowKey) (u : Update) (now : Instant)

/-- The row a call creates. -/
def Call.created? : Call → Option RowKey
  | .create new id _ => some ⟨new.projectId, id⟩
  | _ => none

/-- Ids are given at random, so that no row is created twice. -/
def FreshIds (calls : List Call) : Prop := (calls.filterMap Call.created?).Nodup

instance (calls : List Call) : Decidable (FreshIds calls) :=
  inferInstanceAs (Decidable (List.Nodup _))

/-- A row with the values one of the calls created it with. -/
def CreatedBy (calls : List Call) (key : RowKey) (a : Action) : Prop :=
  ∃ new id now, Call.create new id now ∈ calls ∧ key = ⟨new.projectId, id⟩ ∧
    a.creation = (new, id, now)

namespace Store

def after (s : Store) : Call → Store
  | .create new id now => (s.create new id now).2
  | .find _ => s
  | .update key u now => (s.update key u now).1

def afterAll (s : Store) (calls : List Call) : Store := calls.foldl after s

theorem afterAll_append (s : Store) (earlier later : List Call) :
    s.afterAll (earlier ++ later) = (s.afterAll earlier).afterAll later := by
  simp [afterAll]

theorem find_after_create (s : Store) (new : NewAction) (id : String) (now : Instant)
    (key : RowKey) : (s.after (.create new id now)).find key =
      if key = ⟨new.projectId, id⟩ then some (new.create id now) else s.find key :=
  find_insert s (new.create id now) key

/-- A row after a call was there before it, in an earlier state, or the call has created it. -/
theorem origin_of_find_after {s : Store} {call : Call} {key : RowKey} {b : Action}
    (found : (s.after call).find key = some b) :
    (∃ a, s.find key = some a ∧ a.Precedes b ∧ (a.Sound → b.Sound)) ∨
    ∃ new id now, call = .create new id now ∧ key = ⟨new.projectId, id⟩ ∧
      b = new.create id now := by
  cases call with
  | create new id now =>
    rw [find_after_create] at found
    split at found
    · rename_i own
      exact .inr ⟨new, id, now, rfl, own, (Option.some.inj found).symm⟩
    · exact .inl ⟨b, found, .refl b, fun valid => valid⟩
  | find other => exact .inl ⟨b, found, .refl b, fun valid => valid⟩
  | update other u now =>
    left
    rcases s.update_cases other u now with ⟨a, present, admitted, updated⟩ | ⟨e, refused⟩
    · simp only [after, updated, find_written] at found
      split at found
      · rename_i own
        subst own
        cases Option.some.inj found
        exact ⟨a, present, admitted.precedes now, fun valid => admitted.sound valid now⟩
      · exact ⟨b, found, .refl b, fun valid => valid⟩
    · simp only [after, refused] at found
      exact ⟨b, found, .refl b, fun valid => valid⟩

/-- A row that a call does not create anew stays, in a later state. -/
theorem exists_find_after {s : Store} {call : Call} {key : RowKey} {a : Action}
    (found : s.find key = some a) (kept : call.created? ≠ some key) :
    ∃ b, (s.after call).find key = some b ∧ a.Precedes b := by
  cases call with
  | create new id now =>
    have other : key ≠ ⟨new.projectId, id⟩ := fun same => kept (by rw [same]; rfl)
    exact ⟨a, by rw [find_after_create, if_neg other, found], .refl a⟩
  | find other => exact ⟨a, found, .refl a⟩
  | update other u now =>
    rcases s.update_cases other u now with ⟨c, present, admitted, updated⟩ | ⟨e, refused⟩
    · simp only [after, updated, find_written]
      by_cases own : key = other
      · subst own
        cases Option.some.inj (found.symm.trans present)
        exact ⟨a.accept u now, by simp, admitted.precedes now⟩
      · exact ⟨a, by simp [own, found], .refl a⟩
    · simp only [after, refused]
      exact ⟨a, found, .refl a⟩

theorem exists_find_afterAll {s : Store} {calls : List Call} {key : RowKey} {a : Action}
    (found : s.find key = some a) (kept : ∀ call ∈ calls, call.created? ≠ some key) :
    ∃ b, (s.afterAll calls).find key = some b ∧ a.Precedes b := by
  induction calls generalizing s a with
  | nil => exact ⟨a, found, .refl a⟩
  | cons call rest ih =>
    obtain ⟨b, next, first⟩ := exists_find_after found (kept call (by simp))
    obtain ⟨c, last, later⟩ := ih next (fun other member => kept other (by simp [member]))
    exact ⟨c, last, first.trans later⟩

/-- Every row is sound and has the values of its creation. -/
def Traced (s : Store) (calls : List Call) : Prop :=
  ∀ key a, s.find key = some a → a.Sound ∧ CreatedBy calls key a

theorem Traced.after {s : Store} {calls : List Call} (traced : s.Traced calls) (call : Call) :
    (s.after call).Traced (calls ++ [call]) := by
  intro key b found
  rcases origin_of_find_after found with ⟨a, before, step, keeps⟩ | ⟨new, id, now, made, own, same⟩
  · obtain ⟨valid, new, id, now, member, own, values⟩ := traced key a before
    exact ⟨keeps valid, new, id, now, List.mem_append_left _ member, own,
      step.creation.trans values⟩
  · subst same
    exact ⟨Action.sound_create new id now, new, id, now, by simp [made], own, rfl⟩

theorem Traced.afterAll {s : Store} {earlier : List Call} (traced : s.Traced earlier)
    (later : List Call) : (s.afterAll later).Traced (earlier ++ later) := by
  induction later generalizing s earlier with
  | nil => simpa [Store.afterAll] using traced
  | cons call rest ih => simpa [Store.afterAll] using ih (traced.after call)

theorem traced_empty : empty.Traced [] := by
  intro key a found
  simp [empty, find] at found

/-- Through any sequence of calls on a store that began empty, every row is sound, keeps what it
was created with, and moves forward only. -/
theorem rows_move_forward {earlier later : List Call} (fresh : FreshIds (earlier ++ later))
    {key : RowKey} {a : Action} (found : (empty.afterAll earlier).find key = some a) :
    a.Sound ∧ CreatedBy earlier key a ∧
      ∃ b, (empty.afterAll (earlier ++ later)).find key = some b ∧ a.Precedes b := by
  obtain ⟨valid, created⟩ := traced_empty.afterAll earlier key a found
  refine ⟨valid, created, ?_⟩
  obtain ⟨new, id, now, member, own, _⟩ := created
  have early : key ∈ earlier.filterMap Call.created? :=
    List.mem_filterMap.mpr ⟨_, member, by rw [own]; rfl⟩
  have kept : ∀ call ∈ later, call.created? ≠ some key := by
    intro call present same
    have apart := (List.nodup_append.mp (by simpa [FreshIds] using fresh)).2.2
    exact apart key early key (List.mem_filterMap.mpr ⟨call, present, same⟩) rfl
  rw [afterAll_append]
  exact exists_find_afterAll found kept

/-- A job is created and begun, and another one is created in a different project. -/
def sampleStart : List Call :=
  [.create ⟨"p", "u", .addToDataset, .null, .null⟩ "a" ⟨0, 0, 0⟩,
    .create ⟨"q", "u", .runEvaluation, .null, .null⟩ "a" ⟨0, 0, 0⟩,
    .update ⟨"p", "a"⟩ (.started 3) ⟨1, 0, 0⟩]

/-- It is finished; a count too many, a second end and a step back come too late or are refused. -/
def sampleEnd : List Call :=
  [.update ⟨"p", "a"⟩ (.progress 3 2 2) ⟨2, 0, 0⟩,
    .update ⟨"p", "a"⟩ (.finished .partly 3 2 1 (some "1 failed") ⟨3, 0, 0⟩) ⟨3, 0, 0⟩,
    .update ⟨"p", "a"⟩ (.finished .failed 3 0 3 none ⟨4, 0, 0⟩) ⟨4, 0, 0⟩,
    .update ⟨"p", "a"⟩ { finishedAt := some ⟨5, 0, 0⟩ } ⟨5, 0, 0⟩,
    .find ⟨"q", "a"⟩]

/-- The row of the first job once it is begun. -/
def sampleRow : Action :=
  (NewAction.create ⟨"p", "u", .addToDataset, .null, .null⟩ "a" ⟨0, 0, 0⟩).accept (.started 3)
    ⟨1, 0, 0⟩

theorem rows_move_forward_begun_job :
    FreshIds (sampleStart ++ sampleEnd) ∧
    (empty.afterAll sampleStart).find ⟨"p", "a"⟩ = some sampleRow ∧
    sampleRow.Sound ∧ CreatedBy sampleStart ⟨"p", "a"⟩ sampleRow ∧
      ∃ b, (empty.afterAll (sampleStart ++ sampleEnd)).find ⟨"p", "a"⟩ = some b ∧
        sampleRow.Precedes b :=
  have fresh : FreshIds (sampleStart ++ sampleEnd) := by decide
  have found : (empty.afterAll sampleStart).find ⟨"p", "a"⟩ = some sampleRow := by rfl
  ⟨fresh, found, rows_move_forward fresh found⟩

end Store

end BulkActions.Job
