import BulkActions.Dataset.Item
import BulkActions.Job.Store
import BulkActions.Journal.Entry

/-! What a run does to the world, recorded in order: writes to the store, calls of the services it
works with, and entries for the journal. -/

namespace BulkActions.Run

structure SinkCall where
  projectId : String
  datasetId : String
  items : List Dataset.Item
  deriving DecidableEq

/-- Which records a job asks for. -/
inductive SelectorCall where
  | observations (projectId : String) (query : Json)
  | subjects (projectId : String) (query : Json)
  deriving DecidableEq

/-- One step of a run. Calls made for single records carry the position of the record. -/
inductive Event (κ : Type) where
  | wrote (update : Job.Update) (refusal : Option Job.Error)
  | selected (call : SelectorCall)
  | submitted (call : SinkCall)
  /-- Items were taken from the stream. -/
  | pulled (count : Nat)
  | began (index : Nat)
  | called (index : Nat) (call : κ)
  | returned (index : Nat) (call : κ)
  | ended (index : Nat) (failure : Option Job.Error)
  | noted (entry : Journal.Entry)
  deriving DecidableEq

/-- The attempted writes, with the refusal of those that failed. -/
def writes {κ : Type} (events : List (Event κ)) : List (Job.Update × Option Job.Error) :=
  events.filterMap fun
    | .wrote update refusal => some (update, refusal)
    | _ => none

def submissions {κ : Type} (events : List (Event κ)) : List SinkCall :=
  events.filterMap fun
    | .submitted call => some call
    | _ => none

def selections {κ : Type} (events : List (Event κ)) : List SelectorCall :=
  events.filterMap fun
    | .selected call => some call
    | _ => none

/-- The calls in the order they were made. -/
def calls {κ : Type} (events : List (Event κ)) : List κ :=
  events.filterMap fun
    | .called _ call => some call
    | _ => none

def completions {κ : Type} (events : List (Event κ)) : List (Nat × Option Job.Error) :=
  events.filterMap fun
    | .ended index failure => some (index, failure)
    | _ => none

def entries {κ : Type} (events : List (Event κ)) : List Journal.Entry :=
  events.filterMap fun
    | .noted entry => some entry
    | _ => none

/-- The greatest number of calls under way at once, from a number already under way. -/
def peakFrom {κ : Type} : Nat → List (Event κ) → Nat
  | open_, [] => open_
  | open_, .called _ _ :: rest => peakFrom (open_ + 1) rest
  | open_, .returned _ _ :: rest => max open_ (peakFrom (open_ - 1) rest)
  | open_, _ :: rest => peakFrom open_ rest

/-- Where a run works: the job, the time, and which writes the store fails by their number. -/
structure Site where
  projectId : String
  actionId : String
  now : Instant
  failingFind : Option Job.Error
  failingWrite : Nat → Job.Update → Option Job.Error

def Site.key (site : Site) : Job.RowKey := ⟨site.projectId, site.actionId⟩

/-- The store, the numbers of writes and submissions so far, and what happened. -/
structure State (κ : Type) where
  store : Job.Store
  writes : Nat
  submissions : Nat
  events : List (Event κ)

namespace State

variable {κ : Type}

def ofStore (store : Job.Store) : State κ := ⟨store, 0, 0, []⟩

def record (s : State κ) (events : List (Event κ)) : State κ :=
  { s with events := s.events ++ events }

def note (s : State κ) (entry : Journal.Entry) : State κ := s.record [.noted entry]

/-- A write that the store was made to fail does not reach it. -/
def attempt (s : State κ) (site : Site) (key : Job.RowKey) (u : Job.Update) :
    Job.Store × Except Job.Error Job.Action :=
  match site.failingWrite s.writes u with
  | some e => (s.store, .error e)
  | none => s.store.update key u site.now

/-- A write to a row, accepted or refused. -/
def writeTo (s : State κ) (site : Site) (key : Job.RowKey) (u : Job.Update) :
    State κ × Except Job.Error Job.Action :=
  match s.attempt site key u with
  | (store, .error e) =>
    ({ s with
        store := store
        writes := s.writes + 1
        events := s.events ++ [.wrote u (some e)] }, .error e)
  | (store, .ok row) =>
    ({ s with
        store := store
        writes := s.writes + 1
        events := s.events ++ [.wrote u none] }, .ok row)

/-- A write to the job's own row. -/
def write (s : State κ) (site : Site) (u : Job.Update) : State κ × Except Job.Error Job.Action :=
  s.writeTo site site.key u

end State

end BulkActions.Run
