import BulkActions.Proofs.Job.Calls

/-! How far an update reaches. It is refused as a whole, with the store as it was, or changes the one
row it names, in the fields it names; then it comes last in the history. -/

namespace BulkActions.Job

/-- `b` is `a` after an update: it takes what the update names and keeps what the update leaves out.
An end stays once it is set, and what the job was created with stays always. -/
structure Action.ChangedBy (a : Action) (u : Update) (now : Instant) (b : Action) : Prop where
  creation : b.creation = a.creation
  status : b.status = u.status.getD a.status
  total : b.total = u.total.getD a.total
  processed : b.processed = u.processed.getD a.processed
  failed : b.failed = u.failed.getD a.failed
  log : b.log = u.log.or a.log
  finishedAt : b.finishedAt = a.finishedAt.or u.finishedAt
  updatedAt : b.updatedAt = now

theorem Action.changedBy_accept (a : Action) (u : Update) (now : Instant) :
    a.ChangedBy u now (a.accept u now) :=
  ⟨rfl, rfl, rfl, rfl, rfl, rfl, rfl, rfl⟩

namespace Store

variable (s : Store) (key : RowKey) (u : Update) (now : Instant)

/-- An update is refused where there is no row, and where the row refuses it. -/
theorem update_eq_error_iff (e : Error) :
    (s.update key u now).2 = .error e ↔
      (s.find key = none ∧ e = .notFound key.projectId key.actionId) ∨
        ∃ a, s.find key = some a ∧ a.refusal u = some e := by
  cases found : s.find key with
  | none => simp [update_of_missing u now found, eq_comm]
  | some a =>
    cases refused : a.refusal u with
    | none =>
      have admitted := (a.refusal_eq_none_iff u).mp refused
      simp [update_of_admits now found admitted, refused]
    | some other => simp [update_of_refusal now found refused, refused]

/-- A row that an update is not about stays, whether the update is accepted or refused. -/
theorem find_after_elsewhere {other : RowKey} (apart : other ≠ key) :
    (s.after (.update key u now)).find other = s.find other := by
  rcases s.update_cases key u now with ⟨a, _, _, updated⟩ | ⟨e, refused⟩
  · simp only [after, updated, find_written, if_neg apart]
  · simp only [after, refused]

/-- In the history of its job an accepted update is the last one; other histories stay. -/
theorem historyOf_written (b : Action) (id : String) :
    (s.written key b u).historyOf id =
      s.historyOf id ++ if id = key.actionId then [u] else [] := by
  by_cases own : id = key.actionId
  · simp [historyOf, written, own]
  · simp [historyOf, written, own, Ne.symm own]

/-- An update of a store is refused, because there is no such row or the row does not admit it, and
then nothing has changed; or it is accepted. Then the record it gives back is the stored row, which
differs from the one before in what the update names alone; every other row is as it was, also one of
the same id in another project; and the history has grown by this update at its end. -/
theorem update_changes_one_row :
    (∃ e, (s.update key u now).2 = .error e ∧ s.after (.update key u now) = s ∧
      ((s.find key = none ∧ e = .notFound key.projectId key.actionId) ∨
        ∃ a, s.find key = some a ∧ ¬ a.Admits u ∧ a.refusal u = some e)) ∨
    ∃ a b t, s.update key u now = (t, .ok b) ∧ s.after (.update key u now) = t ∧
      s.find key = some a ∧ a.Admits u ∧ t.find key = some b ∧ a.ChangedBy u now b ∧
      (∀ other, other ≠ key → t.find other = s.find other) ∧
      t.history = s.history ++ [(key.actionId, u)] ∧
      ∀ id, t.historyOf id = s.historyOf id ++ if id = key.actionId then [u] else [] := by
  rcases s.update_cases key u now with ⟨a, found, admitted, updated⟩ | ⟨e, refused⟩
  · right
    have next : s.after (.update key u now) = s.written key (a.accept u now) u := by
      simp only [after, updated]
    refine ⟨a, _, _, updated, next, found, admitted, ?_, a.changedBy_accept u now, ?_, rfl,
      s.historyOf_written key u _⟩
    · rw [find_written, if_pos rfl]
    · intro other apart
      rw [← next, find_after_elsewhere s key u now apart]
  · left
    have answered : (s.update key u now).2 = .error e := by rw [refused]
    refine ⟨e, answered, by simp only [after, refused], ?_⟩
    rcases (s.update_eq_error_iff key u now e).mp answered with missing | ⟨a, found, reason⟩
    · exact .inl missing
    · refine .inr ⟨a, found, fun admitted => ?_, reason⟩
      rw [(a.refusal_eq_none_iff u).mpr admitted] at reason
      cases reason

end Store

end BulkActions.Job
