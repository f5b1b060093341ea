import BulkActions.Job.Store
import BulkActions.Proofs.Job.Update

/-! Rows of a store after an insertion or an update. The rows are bindings like those of a document,
and their look-up law is the same. -/

namespace BulkActions.Job

namespace Store

theorem put_eq_insert (key : RowKey) (a : Action) (rows : List (RowKey × Action)) :
    put key a rows = Assoc.insert rows key a := by
  induction rows with
  | nil => rfl
  | cons row rest ih =>
    obtain ⟨other, old⟩ := row
    by_cases same : other = key
    · simp [put, Assoc.insert, same]
    · simp [put, Assoc.insert, same, ih]

theorem lookup_put (key other : RowKey) (a : Action) (rows : List (RowKey × Action)) :
    (put key a rows).lookup other = if other = key then some a else rows.lookup other := by
  rw [put_eq_insert]
  exact Assoc.find?_insert rows key other a

theorem find_insert (s : Store) (a : Action) (key : RowKey) :
    (s.insert a).find key = if key = ⟨a.projectId, a.id⟩ then some a else s.find key :=
  lookup_put _ key a s.rows

/-- The store after an accepted update of a row. -/
def written (s : Store) (key : RowKey) (b : Action) (u : Update) : Store :=
  ⟨put key b s.rows, s.history ++ [(key.actionId, u)]⟩

theorem find_written (s : Store) (key other : RowKey) (b : Action) (u : Update) :
    (s.written key b u).find other = if other = key then some b else s.find other :=
  lookup_put key other b s.rows

/-- A row put where it stands already leaves the rows as they are. -/
theorem put_of_lookup {key : RowKey} {a : Action} {rows : List (RowKey × Action)}
    (found : rows.lookup key = some a) : put key a rows = rows := by
  induction rows with
  | nil => cases found
  | cons row rest ih =>
    obtain ⟨other, old⟩ := row
    change Assoc.find? ((other, old) :: rest) key = some a at found
    rw [Assoc.find?_cons] at found
    by_cases same : other = key
    · rw [if_pos same.symm] at found
      cases found
      rw [put, if_pos same, same]
    · rw [if_neg (Ne.symm same)] at found
      rw [put, if_neg same, ih found]

theorem update_of_admits {s : Store} {key : RowKey} {a : Action} {u : Update} (now : Instant)
    (found : s.find key = some a) (admitted : a.Admits u) :
    s.update key u now = (s.written key (a.accept u now) u, .ok (a.accept u now)) := by
  simp only [update, found, Action.update_of_admits admitted now, written]

/-- A refused update puts the row back as it was, and so leaves the store as it was. -/
theorem update_of_refusal {s : Store} {key : RowKey} {a : Action} {u : Update} {e : Error}
    (now : Instant) (found : s.find key = some a) (refused : a.refusal u = some e) :
    s.update key u now = (s, .error e) := by
  simp only [update, found, Action.update_of_refusal refused now, put_of_lookup found]

theorem update_of_missing {s : Store} {key : RowKey} (u : Update) (now : Instant)
    (missing : s.find key = none) :
    s.update key u now = (s, .error (.notFound key.projectId key.actionId)) := by
  simp only [update, missing]

/-- An update changes a row that is there and admits it, or is refused and changes nothing. -/
theorem update_cases (s : Store) (key : RowKey) (u : Update) (now : Instant) :
    (∃ a, s.find key = some a ∧ a.Admits u ∧
      s.update key u now = (s.written key (a.accept u now) u, .ok (a.accept u now))) ∨
    ∃ e, s.update key u now = (s, .error e) := by
  cases found : s.find key with
  | none => exact .inr ⟨_, update_of_missing u now found⟩
  | some a =>
    cases refused : a.refusal u with
    | none =>
      have admitted := (Action.refusal_eq_none_iff a u).mp refused
      exact .inl ⟨a, rfl, admitted, update_of_admits now found admitted⟩
    | some e => exact .inr ⟨e, update_of_refusal now found refused⟩

/-- Every row stands at the key that its own ids make. -/
def Keyed (s : Store) : Prop := ∀ key a, s.find key = some a → key = ⟨a.projectId, a.id⟩

theorem keyed_empty : empty.Keyed := by
  intro key a found
  cases found

theorem Keyed.insert {s : Store} (keyed : s.Keyed) (a : Action) : (s.insert a).Keyed := by
  intro key b found
  rw [find_insert] at found
  split at found
  · cases found
    assumption
  · exact keyed key b found

end Store

end BulkActions.Job
