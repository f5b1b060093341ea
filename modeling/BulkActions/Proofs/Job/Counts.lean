import BulkActions.Job.Codec
import BulkActions.Proofs.Decode.Ensured
import BulkActions.Proofs.Job.Scope

/-! The check of an update's counts against the integers. Counts are words, and so must their sum
be. Up to there the check decides what the integers say; beyond, it comes to no decision. -/

namespace BulkActions.Job

open Decode

/-- A count that was read. -/
def IsWord (count : Option Nat) : Prop := ∀ n, count = some n → n < Action.countLimit

/-- The counts an update names are words. -/
structure Update.InWords (u : Update) : Prop where
  total : IsWord u.total
  processed : IsWord u.processed
  failed : IsWord u.failed

/-- The counts of a record are words. -/
structure Action.InWords (a : Action) : Prop where
  total : a.total < countLimit
  processed : a.processed < countLimit
  failed : a.failed < countLimit

theorem ensures_count (name : String) :
    (Record.optional (σ := Document) name (option count64)).Ensures IsWord := by
  refine Record.ensures_optional (by simp [IsWord]) ?_
  rintro v count read n rfl
  exact lt_of_unsigned (of_option read)

theorem ensures_anything {α : Type} (r : Record Document α) : r.Ensures fun _ => True :=
  fun _ _ _ _ => trivial

/-- Every update that is read from a document has words for its counts. -/
theorem Update.inWords_of_decoder {d : Document} {u : Update} (read : Update.decoder d = .ok u) :
    u.InWords := by
  refine Record.ensures_of_decoder ?_ read
  refine (ensures_anything _).seq ?_
  refine (ensures_anything _).seq ?_
  refine (ensures_count "failedCount").seq ?_
  refine (ensures_count "processedCount").seq ?_
  refine (ensures_count "totalCount").seq ?_
  refine (ensures_anything _).map ?_
  intro status _ total totalWord processed processedWord failed failedWord log _ finishedAt _
  exact ⟨totalWord, processedWord, failedWord⟩

namespace Action

variable {a : Action} {u : Update}

theorem InWords.next (row : a.InWords) (update : u.InWords) :
    a.nextTotal u < countLimit ∧ a.nextProcessed u < countLimit ∧ a.nextFailed u < countLimit := by
  have getD : ∀ {count : Option Nat} {old : Nat}, IsWord count → old < countLimit →
      count.getD old < countLimit := by
    intro count old word below
    cases count with
    | none => exact below
    | some n => exact word n rfl
  exact ⟨getD update.total row.total, getD update.processed row.processed,
    getD update.failed row.failed⟩

theorem InWords.accept (row : a.InWords) (update : u.InWords) (now : Instant) :
    (a.accept u now).InWords :=
  have ⟨total, processed, failed⟩ := row.next update
  ⟨total, processed, failed⟩

/-- All that is checked of an update before its counts. -/
structure Timely (a : Action) (u : Update) : Prop where
  moves : ∀ next, u.status = some next → a.status.canMoveTo next = true
  ends : u.finishedAt.isSome → (a.nextStatus u).isTerminal = true

/-- Progress moves no status and ends nothing. -/
theorem timely_progress (a : Action) (total processed failed : Nat) :
    a.Timely (.progress total processed failed) where
  moves next named := by cases named
  ends set := by cases set

/-- More records are counted than there are, once their number is known. -/
def Exceeds (a : Action) (u : Update) : Prop :=
  0 < a.nextTotal u ∧ a.nextTotal u < a.nextProcessed u + a.nextFailed u

/-- The counts have no sum among the words, once the number of records is known. -/
def Overflows (a : Action) (u : Update) : Prop :=
  0 < a.nextTotal u ∧ countLimit ≤ a.nextProcessed u + a.nextFailed u

theorem admits_iff (row : a.InWords) (update : u.InWords) :
    a.Admits u ↔ a.Timely u ∧ ¬ a.Exceeds u := by
  have word := (row.next update).1
  unfold Exceeds
  constructor
  · intro admitted
    refine ⟨⟨admitted.moves, admitted.ends⟩, fun ⟨known, more⟩ => ?_⟩
    exact absurd (admitted.counts known).2 (Nat.not_le_of_lt more)
  · rintro ⟨timely, within⟩
    refine ⟨timely.moves, timely.ends, fun known => ?_⟩
    have most : a.nextProcessed u + a.nextFailed u ≤ a.nextTotal u :=
      Nat.le_of_not_lt fun more => within ⟨known, more⟩
    exact ⟨Nat.lt_of_le_of_lt most word, most⟩

/-- What stands against an update that is timely can only be its counts. -/
theorem refusal_of_timely (timely : a.Timely u) :
    a.refusal u =
      if a.nextTotal u = 0 then none
      else if countLimit ≤ a.nextProcessed u + a.nextFailed u then some .countOverflow
      else if a.nextTotal u < a.nextProcessed u + a.nextFailed u then some (a.excess u)
      else none := by
  have moves : (u.status.any fun next => !a.status.canMoveTo next) = false := by
    cases named : u.status with
    | none => rfl
    | some next => simp [timely.moves next named]
  have ends : (u.finishedAt.isSome && !(a.nextStatus u).isTerminal) = false := by
    cases set : u.finishedAt with
    | none => rfl
    | some time => simp [timely.ends (by simp [set])]
  simp only [refusal, moves, ends, Bool.false_eq_true, if_false]

theorem timely_of_overflow (overflows : a.refusal u = some .countOverflow) : a.Timely u := by
  unfold refusal at overflows
  split at overflows
  · cases overflows
  · rename_i allowed
    split at overflows
    · cases overflows
    · rename_i ended
      constructor
      · intro next named
        simpa [named] using allowed
      · intro set
        simpa [set] using ended

theorem refusal_eq_overflow_iff :
    a.refusal u = some .countOverflow ↔ a.Timely u ∧ a.Overflows u := by
  unfold Overflows
  constructor
  · intro overflows
    have timely := timely_of_overflow overflows
    rw [refusal_of_timely timely] at overflows
    split at overflows
    · cases overflows
    · rename_i known
      split at overflows
      · rename_i beyond
        exact ⟨timely, Nat.pos_of_ne_zero known, beyond⟩
      · split at overflows <;> cases overflows
  · rintro ⟨timely, known, beyond⟩
    rw [refusal_of_timely timely, if_neg (Nat.ne_of_gt known), if_pos beyond]

theorem refusal_of_exceeds (timely : a.Timely u) (exceeds : a.Exceeds u) :
    a.refusal u = some (a.excess u) ↔ ¬ a.Overflows u := by
  obtain ⟨known, more⟩ := exceeds
  unfold Overflows
  rw [refusal_of_timely timely, if_neg (Nat.ne_of_gt known)]
  by_cases beyond : countLimit ≤ a.nextProcessed u + a.nextFailed u
  · simp [beyond, known, excess]
  · simp [beyond, more]

end Action

namespace Store

variable {s : Store} {key : RowKey} {a : Action} {u : Update}

theorem admits_of_update_eq_ok (found : s.find key = some a) {b : Action} {t : Store}
    {now : Instant} (accepted : s.update key u now = (t, .ok b)) :
    a.Admits u ∧ b = a.accept u now := by
  rcases s.update_cases key u now with ⟨row, present, admitted, updated⟩ | ⟨e, refused⟩
  · cases found.symm.trans present
    cases updated.symm.trans accepted
    exact ⟨admitted, rfl⟩
  · cases refused.symm.trans accepted

theorem update_eq_refusal_iff (found : s.find key = some a) (now : Instant) (e : Error) :
    (s.update key u now).2 = .error e ↔ a.refusal u = some e := by
  simp [s.update_eq_error_iff key u now e, found]

/-- An update of a row, where the counts of both are words. It is accepted exactly if it is timely
and counts no more records than there are, and the row then still holds words. One that counts more
is refused for that, unless the sum of its counts is no word: then, and only then, the check
overflows in place of a decision. Where it is not accepted, nothing changes. -/
theorem counts_are_decided_iff (found : s.find key = some a) (row : a.InWords)
    (update : u.InWords) (now : Instant) :
    ((∃ b t, s.update key u now = (t, .ok b)) ↔ a.Timely u ∧ ¬ a.Exceeds u) ∧
    (∀ b t, s.update key u now = (t, .ok b) → b.InWords) ∧
    (a.Timely u → a.Exceeds u →
      ((s.update key u now).2 = .error (a.excess u) ↔ ¬ a.Overflows u)) ∧
    ((s.update key u now).2 = .error .countOverflow ↔ a.Timely u ∧ a.Overflows u) ∧
    ∀ e, (s.update key u now).2 = .error e → s.after (.update key u now) = s := by
  refine ⟨?_, ?_, ?_, ?_, ?_⟩
  · rw [← Action.admits_iff row update]
    constructor
    · rintro ⟨b, t, accepted⟩
      exact (admits_of_update_eq_ok found accepted).1
    · intro admitted
      exact ⟨_, _, update_of_admits now found admitted⟩
  · intro b t accepted
    rw [(admits_of_update_eq_ok found accepted).2]
    exact row.accept update now
  · intro timely exceeds
    rw [update_eq_refusal_iff found]
    exact Action.refusal_of_exceeds timely exceeds
  · rw [update_eq_refusal_iff found]
    exact Action.refusal_eq_overflow_iff
  · intro e refused
    rw [after, update_of_refusal now found ((update_eq_refusal_iff found now e).mp refused)]

/-- One record, and counts that are words but whose sum is none. -/
def unsummableDocument : Json :=
  .obj [("totalCount", .nat 1), ("processedCount", .nat 18446744073709551615),
    ("failedCount", .nat 1)]

def unsummableUpdate : Update := .progress 1 18446744073709551615 1

def untouchedRow : Action :=
  NewAction.create ⟨"p", "u", .addToDataset, .null, .null⟩ "a" ⟨0, 0, 0⟩

theorem counts_are_decided_iff_unsummable :
    fromJson Update.decoder unsummableDocument = .ok unsummableUpdate ∧
    untouchedRow.InWords ∧ unsummableUpdate.InWords ∧
    ((empty.insert untouchedRow).update ⟨"p", "a"⟩ unsummableUpdate ⟨9, 0, 0⟩).2 =
      .error .countOverflow ∧
    (empty.insert untouchedRow).after (.update ⟨"p", "a"⟩ unsummableUpdate ⟨9, 0, 0⟩) =
      empty.insert untouchedRow := by
  have read : fromJson Update.decoder unsummableDocument = .ok unsummableUpdate := rfl
  have row : untouchedRow.InWords := ⟨by decide, by decide, by decide⟩
  have update := Update.inWords_of_decoder read
  have timely : untouchedRow.Timely unsummableUpdate := untouchedRow.timely_progress 1 _ 1
  have overflows : untouchedRow.Overflows unsummableUpdate := ⟨by decide, by decide⟩
  have found : (empty.insert untouchedRow).find ⟨"p", "a"⟩ = some untouchedRow := rfl
  have ⟨_, _, _, overflow, unchanged⟩ := counts_are_decided_iff found row update ⟨9, 0, 0⟩
  have answered := overflow.mpr ⟨timely, overflows⟩
  exact ⟨read, row, update, answered, unchanged _ answered⟩

/-- A sum that passes the limit is not refused as too many records, though it exceeds their number.
What is left of it beyond the limit would not exceed it. -/
theorem unsummable_counts_are_not_refused :
    fromJson Update.decoder unsummableDocument = .ok unsummableUpdate ∧
    untouchedRow.Timely unsummableUpdate ∧ untouchedRow.Exceeds unsummableUpdate ∧
    (empty.insert untouchedRow).find ⟨"p", "a"⟩ = some untouchedRow ∧
    ((empty.insert untouchedRow).update ⟨"p", "a"⟩ unsummableUpdate ⟨9, 0, 0⟩).2 =
      .error .countOverflow ∧
    untouchedRow.excess unsummableUpdate ≠ .countOverflow ∧
    (untouchedRow.nextProcessed unsummableUpdate + untouchedRow.nextFailed unsummableUpdate) %
      Action.countLimit ≤ untouchedRow.nextTotal unsummableUpdate := by
  refine ⟨rfl, untouchedRow.timely_progress 1 _ 1, ⟨by decide, by decide⟩, rfl, rfl, ?_,
    by decide⟩
  intro same
  cases same

end Store

end BulkActions.Job
