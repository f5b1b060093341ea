import BulkActions.Job.Action

/-! Jobs kept by project and id, with every accepted update in order. -/

namespace BulkActions.Job

structure RowKey where
  projectId : String
  actionId : String
  deriving DecidableEq, Repr

/-- The history names a job by its id alone. -/
structure Store where
  rows : List (RowKey × Action)
  history : List (String × Update)
  deriving DecidableEq

namespace Store

def empty : Store := ⟨[], []⟩

def find (s : Store) (key : RowKey) : Option Action := s.rows.lookup key

/-- Replaces the row of a key, or adds one. -/
def put (key : RowKey) (a : Action) : List (RowKey × Action) → List (RowKey × Action)
  | [] => [(key, a)]
  | (other, old) :: rest =>
    if other = key then (key, a) :: rest else (other, old) :: put key a rest

def insert (s : Store) (a : Action) : Store :=
  { s with rows := put ⟨a.projectId, a.id⟩ a s.rows }

def create (s : Store) (new : NewAction) (id : String) (now : Instant) : Action × Store :=
  let a := new.create id now
  (a, s.insert a)

/-- Updates the row of a key where it stands. The store comes back also from an update that is refused,
with the row as the update has left it; the history only grows if it is accepted. -/
def update (s : Store) (key : RowKey) (u : Update) (now : Instant) : Store × Except Error Action :=
  match s.find key with
  | none => (s, .error (.notFound key.projectId key.actionId))
  | some a =>
    match a.update u now with
    | (b, .error e) => ({ s with rows := put key b s.rows }, .error e)
    | (b, .ok ()) => (⟨put key b s.rows, s.history ++ [(key.actionId, u)]⟩, .ok b)

/-- The accepted updates of an id, oldest first. -/
def historyOf (s : Store) (actionId : String) : List Update :=
  (s.history.filter fun entry => entry.1 == actionId).map Prod.snd

end Store

end BulkActions.Job
