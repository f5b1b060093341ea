import BulkActions.Job.Action

/-! What an accepted update can do to the record of a job. Everything later modules know of the
checks is said once, by `Admits`. -/

namespace BulkActions.Job

theorem Status.canMoveTo_iff (status next : Status) :
    status.canMoveTo next = true ↔ status.isTerminal = false ∧
      (status = .processing ∧ next = .processing ∨ status.stage < next.stage) := by
  cases status <;> cases next <;> decide

theorem Status.canMoveTo_ofCounts {status : Status} (started : status.isTerminal = false)
    (processed failed : Nat) : status.canMoveTo (ofCounts processed failed) = true := by
  have ends : (ofCounts processed failed).isTerminal = true := isTerminal_ofCounts processed failed
  generalize ofCounts processed failed = next at ends ⊢
  cases status <;> cases next <;> simp_all [isTerminal, canMoveTo, stage]

namespace Action

/-- Why an update is refused: a step back, an end without a terminal status, or more records
counted than there are. -/
def refusal (a : Action) (u : Update) : Option Error :=
  if u.status.any fun next => !a.status.canMoveTo next then
    some (.invalidTransition a.id a.status (a.nextStatus u))
  else if u.finishedAt.isSome && !(a.nextStatus u).isTerminal then
    some a.untimelyEnd
  else if a.nextTotal u = 0 then none
  else if countLimit ≤ a.nextProcessed u + a.nextFailed u then some .countOverflow
  else if a.nextTotal u < a.nextProcessed u + a.nextFailed u then some (a.excess u)
  else none

/-- The record after an accepted update. -/
def accept (a : Action) (u : Update) (now : Instant) : Action :=
  { a with
    status := a.nextStatus u
    total := a.nextTotal u
    processed := a.nextProcessed u
    failed := a.nextFailed u
    log := u.log.or a.log
    finishedAt := a.finishedAt.or u.finishedAt
    updatedAt := now }

/-- The checks change nothing, whatever they come to. -/
theorem on_check (a : Action) (u : Update) :
    (check u).on a =
      match a.refusal u with
      | some e => (a, .error e)
      | none => (a, .ok ()) := by
  have known : 0 < a.nextTotal u ↔ ¬ a.nextTotal u = 0 := Nat.pos_iff_ne_zero
  simp only [check, refusal, InPlace.on_get_bind, InPlace.on_ite, InPlace.on_throw_bind,
    InPlace.on_throw, InPlace.on_pure, known, ite_not]
  -- The steps and the refusal now ask the same questions in the same order.
  by_cases back : (u.status.any fun next => !a.status.canMoveTo next) = true
  · simp only [if_pos back]
  by_cases untimely : (u.finishedAt.isSome && !(a.nextStatus u).isTerminal) = true
  · simp only [if_neg back, if_pos untimely]
  by_cases unknown : a.nextTotal u = 0
  · simp only [if_neg back, if_neg untimely, if_pos unknown]
  by_cases beyond : countLimit ≤ a.nextProcessed u + a.nextFailed u
  · simp only [if_neg back, if_neg untimely, if_neg unknown, if_pos beyond]
  by_cases more : a.nextTotal u < a.nextProcessed u + a.nextFailed u
  · simp only [if_neg back, if_neg untimely, if_neg unknown, if_neg beyond, if_pos more]
  · simp only [if_neg back, if_neg untimely, if_neg unknown, if_neg beyond, if_neg more]

theorem on_assign (a : Action) (u : Update) (now : Instant) :
    (assign u now).on a = (a.accept u now, .ok ()) := by
  simp only [assign, accept, InPlace.on_get_bind, InPlace.on_modify_bind, InPlace.on_ite,
    InPlace.on_modify]
  cases u.log <;> cases a.finishedAt <;> rfl

/-- An update is refused as a whole, with the record as it was, or accepted. -/
theorem update_eq (a : Action) (u : Update) (now : Instant) :
    a.update u now =
      match a.refusal u with
      | some e => (a, .error e)
      | none => (a.accept u now, .ok ()) := by
  rw [update, InPlace.on_bind, on_check]
  cases a.refusal u with
  | some e => rfl
  | none => exact on_assign a u now

/-- The conditions under which an update of a record is accepted. -/
structure Admits (a : Action) (u : Update) : Prop where
  moves : ∀ next, u.status = some next → a.status.canMoveTo next = true
  ends : u.finishedAt.isSome → (a.nextStatus u).isTerminal = true
  counts : 0 < a.nextTotal u → a.nextProcessed u + a.nextFailed u < countLimit ∧
    a.nextProcessed u + a.nextFailed u ≤ a.nextTotal u

theorem refusal_eq_none_iff (a : Action) (u : Update) : a.refusal u = none ↔ a.Admits u := by
  have moves : (u.status.any fun next => !a.status.canMoveTo next) = false ↔
      ∀ next, u.status = some next → a.status.canMoveTo next = true := by
    cases u.status <;> simp
  have ends : (u.finishedAt.isSome && !(a.nextStatus u).isTerminal) = false ↔
      (u.finishedAt.isSome → (a.nextStatus u).isTerminal = true) := by
    cases u.finishedAt <;> simp
  unfold refusal
  constructor
  · intro accepted
    split at accepted
    · cases accepted
    · rename_i allowed
      split at accepted
      · cases accepted
      · rename_i timely
        refine ⟨moves.mp (by simpa using allowed), ends.mp (by simpa using timely), ?_⟩
        intro known
        simp only [Nat.ne_of_gt known, ↓reduceIte] at accepted
        split at accepted
        · cases accepted
        · split at accepted
          · cases accepted
          · omega
  · intro ⟨allowed, timely, bounded⟩
    simp only [moves.mpr allowed, ends.mpr timely, Bool.false_eq_true, ↓reduceIte]
    by_cases unknown : a.nextTotal u = 0
    · simp [unknown]
    · obtain ⟨fits, within⟩ := bounded (Nat.pos_of_ne_zero unknown)
      simp [unknown, Nat.not_le.mpr fits, Nat.not_lt.mpr within]

theorem update_of_admits {a : Action} {u : Update} (admitted : a.Admits u) (now : Instant) :
    a.update u now = (a.accept u now, .ok ()) := by
  rw [update_eq, (refusal_eq_none_iff a u).mpr admitted]

theorem update_of_refusal {a : Action} {u : Update} {e : Error} (refused : a.refusal u = some e)
    (now : Instant) : a.update u now = (a, .error e) := by
  rw [update_eq, refused]

/-- What a job is created with: the engine never writes these fields. -/
def creation (a : Action) : NewAction × String × Instant :=
  (⟨a.projectId, a.userId, a.kind, a.query, a.config⟩, a.id, a.createdAt)

/-- What holds of every stored record: only a terminal job has an end, and no more records are
counted than there are once their number is known. -/
structure Sound (a : Action) : Prop where
  ended : a.finishedAt.isSome → a.status.isTerminal = true
  counted : 0 < a.total → a.processed + a.failed ≤ a.total

/-- `b` is a later state of the same job as `a`. -/
structure Precedes (a b : Action) : Prop where
  stage : a.status.stage ≤ b.status.stage
  final : a.status.isTerminal = true → b.status = a.status
  ended : ∀ time, a.finishedAt = some time → b.finishedAt = some time
  creation : b.creation = a.creation

theorem Precedes.refl (a : Action) : a.Precedes a :=
  ⟨Nat.le_refl _, fun _ => rfl, fun _ same => same, rfl⟩

theorem Precedes.trans {a b c : Action} (first : a.Precedes b) (second : b.Precedes c) :
    a.Precedes c where
  stage := Nat.le_trans first.stage second.stage
  final terminal := by
    have same := first.final terminal
    rw [second.final (by rw [same]; exact terminal), same]
  ended time set := second.ended time (first.ended time set)
  creation := second.creation.trans first.creation

theorem sound_create (new : NewAction) (id : String) (now : Instant) :
    (new.create id now).Sound :=
  ⟨by simp [NewAction.create], by simp [NewAction.create]⟩

theorem Admits.nextStatus_of_terminal {a : Action} {u : Update} (admitted : a.Admits u)
    (terminal : a.status.isTerminal = true) : a.nextStatus u = a.status := by
  cases named : u.status with
  | none => simp [nextStatus, named]
  | some next =>
    have moved := (Status.canMoveTo_iff _ _).mp (admitted.moves next named)
    simp [terminal] at moved

theorem Admits.stage_le {a : Action} {u : Update} (admitted : a.Admits u) :
    a.status.stage ≤ (a.nextStatus u).stage := by
  cases named : u.status with
  | none => simp [nextStatus, named]
  | some next =>
    obtain ⟨_, ⟨same, again⟩ | later⟩ := (Status.canMoveTo_iff _ _).mp (admitted.moves next named)
    · simp [nextStatus, named, same, again]
    · simpa [nextStatus, named] using Nat.le_of_lt later

theorem Admits.precedes {a : Action} {u : Update} (admitted : a.Admits u) (now : Instant) :
    a.Precedes (a.accept u now) where
  stage := admitted.stage_le
  final terminal := admitted.nextStatus_of_terminal terminal
  ended time set := by simp [accept, set]
  creation := rfl

theorem Admits.sound {a : Action} {u : Update} (admitted : a.Admits u) (valid : a.Sound)
    (now : Instant) : (a.accept u now).Sound where
  ended set := by
    change (a.nextStatus u).isTerminal = true
    cases earlier : a.finishedAt with
    | none => exact admitted.ends (by simpa [accept, earlier] using set)
    | some time =>
      have terminal := valid.ended (by simp [earlier])
      rw [admitted.nextStatus_of_terminal terminal]
      exact terminal
  counted known := (admitted.counts known).2

end Action

end BulkActions.Job
