import BulkActions.InPlace
import BulkActions.Job.Error
import BulkActions.Json.Basic
import BulkActions.Time.Instant

/-! The persisted record of a job and the partial updates that move it on. A terminal status is
never left, and the counts never exceed a known total. -/

namespace BulkActions.Job

structure Action where
  id : String
  projectId : String
  userId : String
  kind : Kind
  status : Status
  query : Json
  config : Json
  total : Nat
  processed : Nat
  failed : Nat
  log : Option String
  finishedAt : Option Instant
  createdAt : Instant
  updatedAt : Instant
  deriving DecidableEq, Inhabited

/-- A job to be created. -/
structure NewAction where
  projectId : String
  userId : String
  kind : Kind
  query : Json
  config : Json
  deriving DecidableEq

/-- A created job is queued, with nothing counted yet. -/
def NewAction.create (new : NewAction) (id : String) (now : Instant) : Action where
  id := id
  projectId := new.projectId
  userId := new.userId
  kind := new.kind
  status := .queued
  query := new.query
  config := new.config
  total := 0
  processed := 0
  failed := 0
  log := none
  finishedAt := none
  createdAt := now
  updatedAt := now

/-- An update leaves alone what it does not name. -/
structure Update where
  status : Option Status := none
  total : Option Nat := none
  processed : Option Nat := none
  failed : Option Nat := none
  log : Option String := none
  finishedAt : Option Instant := none
  deriving DecidableEq, Repr

namespace Update

/-- A run begins; the counts start over. -/
def started (total : Nat) : Update :=
  { status := some .processing, total := some total, processed := some 0, failed := some 0 }

def progress (total processed failed : Nat) : Update :=
  { total := some total, processed := some processed, failed := some failed }

def finished (status : Status) (total processed failed : Nat) (log : Option String)
    (now : Instant) : Update :=
  { status := some status, total := some total, processed := some processed,
    failed := some failed, log := log, finishedAt := some now }

/-- A job that fails before any record is handled. -/
def failedBeforeStart (log : String) (now : Instant) : Update :=
  { status := some .failed, log := some log, finishedAt := some now }

end Update

namespace Action

/-- Counts are words; the sum of two may not exceed one. -/
def countLimit : Nat := Nat.pow 2 64

def nextStatus (a : Action) (u : Update) : Status := u.status.getD a.status

def nextTotal (a : Action) (u : Update) : Nat := u.total.getD a.total

def nextProcessed (a : Action) (u : Update) : Nat := u.processed.getD a.processed

def nextFailed (a : Action) (u : Update) : Nat := u.failed.getD a.failed

/-- The report of an end without a terminal status. -/
def untimelyEnd (a : Action) : Error :=
  .validation s!"finished_at may only be set with a terminal status (batch action {a.id})"

/-- The report of too many records. -/
def excess (a : Action) (u : Update) : Error :=
  let total := a.nextTotal u
  let processed := a.nextProcessed u
  let failed := a.nextFailed u
  .validation <|
    s!"processed ({processed}) + failed ({failed}) exceeds total ({total}) " ++
      s!"for batch action {a.id}"

/-- Stops an update that is a step back, an end without a terminal status, or counts more records than
there are. The counts are added as in a build with overflow checks, which does not get past a sum that
is no word. A build without these checks goes on with the remainder of the sum; it is not modelled. -/
def check (u : Update) : InPlace Action Error Unit := do
  let a ← get
  if u.status.any fun next => !a.status.canMoveTo next then
    throw (.invalidTransition a.id a.status (a.nextStatus u))
  if u.finishedAt.isSome && !(a.nextStatus u).isTerminal then
    throw a.untimelyEnd
  if 0 < a.nextTotal u then
    if countLimit ≤ a.nextProcessed u + a.nextFailed u then
      throw .countOverflow
    if a.nextTotal u < a.nextProcessed u + a.nextFailed u then
      throw (a.excess u)

/-- Takes over what an update names. The log is only ever replaced, the end is set once. -/
def assign (u : Update) (now : Instant) : InPlace Action Error Unit := do
  let a ← get
  modify ({ · with status := a.nextStatus u })
  modify ({ · with total := a.nextTotal u })
  modify ({ · with processed := a.nextProcessed u })
  modify ({ · with failed := a.nextFailed u })
  if u.log.isSome then
    modify ({ · with log := u.log })
  if a.finishedAt.isNone then
    modify ({ · with finishedAt := u.finishedAt })
  modify ({ · with updatedAt := now })

/-- The record after an update, also where the update is refused. -/
def update (a : Action) (u : Update) (now : Instant) : Action × Except Error Unit :=
  InPlace.on (do check u; assign u now) a

end Action

/-- What a run reports once its job is terminal. -/
structure Outcome where
  status : Status
  total : Nat
  processed : Nat
  failed : Nat
  log : Option String
  deriving DecidableEq, Repr

def Action.outcome (a : Action) : Outcome := ⟨a.status, a.total, a.processed, a.failed, a.log⟩

end BulkActions.Job
