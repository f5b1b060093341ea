import BulkActions.Run.Counters
import BulkActions.Run.State
import BulkActions.Run.Summary

/-! What a run has counted and kept, and the writes every kind of run makes of it. -/

namespace BulkActions.Run

structure Tally where
  counters : Counters
  samples : Samples
  deriving DecidableEq, Repr

namespace Tally

variable {κ : Type}

def start (total cap : Nat) : Tally := ⟨.ofTotal total, .empty cap⟩

/-- Writes the counts. A refusal is noted and does not stop the run. -/
def writeProgress (t : Tally) (site : Site) (lost : Job.Error → Journal.Entry) (s : State κ) :
    State κ :=
  match s.write site t.counters.progress with
  | (s, .ok _) => s
  | (s, .error e) => s.note (lost e)

/-- The outcome of a run with this headline. -/
def outcome (t : Tally) (headline : String) (settings : SummarySettings) : Job.Outcome :=
  t.counters.outcome (summary t.counters.failed headline t.samples settings)

/-- Writes the outcome. A refusal of this write is the run's own. -/
def finish (t : Tally) (site : Site) (headline : String) (settings : SummarySettings)
    (done : Job.Outcome → Journal.Entry) (s : State κ) : State κ × Except Job.Error Job.Outcome :=
  let outcome := t.outcome headline settings
  match s.write site (.finished outcome.status outcome.total outcome.processed outcome.failed
    outcome.log site.now) with
  | (s, .error e) => (s, .error e)
  | (s, .ok _) => (s.note (done outcome), .ok outcome)

end Tally

/-- A list in pieces of `size`, the last one possibly shorter. -/
def pieces {α : Type} (size : Nat) (xs : List α) : List (List α) := go xs.length xs
where
  go : Nat → List α → List (List α)
    | 0, _ => []
    | _ + 1, [] => []
    | fuel + 1, xs => xs.take size :: go fuel (xs.drop size)

end BulkActions.Run
