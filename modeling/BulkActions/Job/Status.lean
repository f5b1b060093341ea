/-! The stages of a job and its kinds. -/

namespace BulkActions.Job

inductive Status where
  | queued
  | processing
  | completed
  | partly
  | failed
  deriving DecidableEq, Repr, Inhabited

namespace Status

def name : Status → String
  | .queued => "queued"
  | .processing => "processing"
  | .completed => "completed"
  | .partly => "partial"
  | .failed => "failed"

def all : List Status := [.queued, .processing, .completed, .partly, .failed]

def named : List (String × Status) := all.map fun s => (s.name, s)

def ofName? (text : String) : Option Status := named.lookup text

def parse (text : String) : Except String Status :=
  match ofName? text with
  | some s => .ok s
  | none => .error s!"Invalid batch action status: {text}"

/-- No stage follows a terminal one. -/
def isTerminal : Status → Bool
  | .completed | .partly | .failed => true
  | _ => false

def stage : Status → Nat
  | .queued => 0
  | .processing => 1
  | .completed | .partly | .failed => 2

/-- A job only moves to a later stage; processing may be written again. -/
def canMoveTo (status next : Status) : Bool :=
  if status.isTerminal then false
  else if status = next then status == .processing
  else status.stage < next.stage

/-- The status of a job all of whose records were handled. -/
def ofCounts (processed failed : Nat) : Status :=
  if failed = 0 then .completed else if processed = 0 then .failed else .partly

theorem isTerminal_ofCounts (processed failed : Nat) : (ofCounts processed failed).isTerminal := by
  unfold ofCounts
  split
  · rfl
  · split <;> rfl

end Status

inductive Kind where
  | addToDataset
  | runEvaluation
  deriving DecidableEq, Repr, Inhabited

namespace Kind

def name : Kind → String
  | .addToDataset => "add-to-dataset"
  | .runEvaluation => "run-evaluation"

def named : List (String × Kind) := [Kind.addToDataset, .runEvaluation].map fun k => (k.name, k)

def parse (text : String) : Except String Kind :=
  match named.lookup text with
  | some k => .ok k
  | none => .error s!"Invalid batch action type: {text}"

end Kind

end BulkActions.Job
