import BulkActions.Job.Action

/-! The counts of a run. -/

namespace BulkActions.Run

structure Counters where
  total : Nat
  processed : Nat
  failed : Nat
  deriving DecidableEq, Repr

namespace Counters

def ofTotal (total : Nat) : Counters := ⟨total, 0, 0⟩

def addProcessed (c : Counters) (count : Nat) : Counters :=
  { c with processed := c.processed + count }

def addFailed (c : Counters) (count : Nat) : Counters := { c with failed := c.failed + count }

def addTotal (c : Counters) (count : Nat) : Counters := { c with total := c.total + count }

def finalStatus (c : Counters) : Job.Status := .ofCounts c.processed c.failed

def progress (c : Counters) : Job.Update := .progress c.total c.processed c.failed

def outcome (c : Counters) (log : Option String) : Job.Outcome :=
  ⟨c.finalStatus, c.total, c.processed, c.failed, log⟩

end Counters

end BulkActions.Run
