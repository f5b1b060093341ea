import BulkActions.Job.Status

/-! What can go wrong between a job and the services around it. -/

namespace BulkActions.Job

inductive Error where
  | database (text : String)
  | notFound (projectId actionId : String)
  | invalidTransition (actionId : String) (current next : Status)
  | sink (text : String)
  | selection (text : String)
  | scheduling (text : String)
  | configuration (text : String)
  | validation (text : String)
  | unexpected (text : String)
  /-- Two counts whose sum exceeds a word. -/
  | countOverflow
  deriving DecidableEq, Repr

def Error.message : Error → String
  | .database text => s!"Database error: {text}"
  | .notFound projectId actionId => s!"Batch action {actionId} not found in project {projectId}"
  | .invalidTransition actionId current next =>
    s!"Invalid status transition for batch action {actionId}: {current.name} -> {next.name}"
  | .sink text => s!"Sink error: {text}"
  | .selection text => s!"Selection error: {text}"
  | .scheduling text => s!"Scheduling error: {text}"
  | .configuration text => s!"Configuration error: {text}"
  | .validation text => s!"Validation error: {text}"
  | .unexpected text => s!"Internal error: {text}"
  | .countOverflow => "attempt to add with overflow"

/-- What a database reports of itself. -/
inductive DatabaseFault where
  | rowNotFound
  | poolClosed
  | poolTimedOut
  | workerCrashed
  | columnNotFound (name : String)
  | protocol (text : String)
  deriving DecidableEq, Repr

def DatabaseFault.message : DatabaseFault → String
  | .rowNotFound =>
    "no rows returned by a query that expected to return at least one row"
  | .poolClosed => "attempted to acquire a connection on a closed pool"
  | .poolTimedOut => "pool timed out while waiting for an open connection"
  | .workerCrashed => "attempted to communicate with a crashed background worker"
  | .columnNotFound name => s!"no column found for name: {name}"
  | .protocol text => s!"encountered unexpected or invalid data: {text}"

def Error.ofDatabase (fault : DatabaseFault) : Error := .database fault.message

/-- A document that is refused, or a text that is none. -/
def Error.ofDocument (message : String) : Error :=
  .validation s!"JSON serialization error: {message}"

end BulkActions.Job
