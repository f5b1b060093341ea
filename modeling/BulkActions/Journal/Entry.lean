/-! Entries of the journal: what happened, how grave it is, and the part of the engine that says
so. -/

namespace BulkActions.Journal

inductive Level where
  | error
  | warn
  | info
  | debug
  | trace
  deriving DecidableEq, Repr

namespace Level

def name : Level → String
  | .error => "ERROR"
  | .warn => "WARN"
  | .info => "INFO"
  | .debug => "DEBUG"
  | .trace => "TRACE"

/-- Graver levels come first. -/
def rank : Level → Nat
  | .error => 1
  | .warn => 2
  | .info => 3
  | .debug => 4
  | .trace => 5

end Level

/-- The part of the engine an entry comes from. -/
inductive Origin where
  | journal
  | settings
  | mapping
  | chunked
  | streamed
  | evaluation
  | processor
  deriving DecidableEq, Repr

/-- The dotted names that filters select by. -/
def Origin.path : Origin → String
  | .journal => "batch_action_core::logging"
  | .settings => "batch_action_core::config::loader"
  | .mapping => "batch_action_core::mapping::compiler"
  | .chunked => "batch_action_core::orchestration::chunked_runner"
  | .streamed => "batch_action_core::orchestration::streaming_runner"
  | .evaluation => "batch_action_core::orchestration::evaluation"
  | .processor => "batch_action_core::orchestration::processor"

inductive FieldValue where
  /-- A text shown as it is. -/
  | shown (text : String)
  /-- A text shown in quotes. -/
  | quoted (text : String)
  | number (value : Nat)
  /-- The number of the running process. -/
  | processId
  /-- The time of the entry. -/
  | clock
  /-- The path of the journal's file. -/
  | file
  /-- Nothing: the field is known, and is not written. -/
  | missing
  deriving DecidableEq, Repr

structure Entry where
  level : Level
  origin : Origin
  message : String
  fields : List (String × FieldValue)
  deriving DecidableEq, Repr

/-- The names an entry carries. Its message is a field like the others. -/
def Entry.names (e : Entry) : List String := "message" :: e.fields.map (·.1)

/-- The fields that have a value. -/
def Entry.written (e : Entry) : List (String × FieldValue) :=
  e.fields.filter fun field => field.2 ≠ .missing

/-- A text in quotes where there is one. -/
def FieldValue.ofOption (value : Option String) : FieldValue := value.elim .missing .quoted

/-- A step in the life of a job. -/
def operation (operation actionId projectId status : String) (details : Option String) : Entry where
  level := .info
  origin := .journal
  message := "📦 BATCH_ACTION"
  fields := [("operation", .shown operation), ("batch_action_id", .shown actionId),
    ("project_id", .shown projectId), ("status", .shown status),
    ("details", .ofOption details), ("timestamp", .clock)]

def fault (component operation error : String) (context : Option String) : Entry where
  level := .error
  origin := .journal
  message := "❌ ERROR"
  fields := [("component", .shown component), ("operation", .shown operation),
    ("error", .shown error), ("context", .ofOption context), ("timestamp", .clock)]

end BulkActions.Journal
