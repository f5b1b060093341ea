import BulkActions.Run.State

/-! Tasks under way together. A task makes its calls one after the other, each of which takes a
while; at most so many tasks are under way at once, and the next one begins as soon as one ends. -/

namespace BulkActions.Run

/-- A task: its calls with their durations, what it fails with, and what it notes at its end. -/
structure Task (κ : Type) where
  calls : List (κ × Nat)
  failure : Option Job.Error
  notes : List Journal.Entry

namespace Pool

variable {κ : Type}

/-- A task whose first remaining call returns at `due`. -/
structure Active (κ : Type) where
  index : Nat
  due : Nat
  call : κ
  later : List (κ × Nat)
  task : Task κ

/-- A task that has not begun. -/
abbrev Waiting (κ : Type) := Nat × Task κ

/-- Makes calls from a moment on, up to the first one that takes time. -/
def proceed (now index : Nat) (task : Task κ) :
    List (κ × Nat) → List (Event κ) × Option (Active κ)
  | [] => (task.notes.map .noted ++ [.ended index task.failure], none)
  | (call, duration) :: later =>
    if duration = 0 then
      let (events, active) := proceed now index task later
      (.called index call :: .returned index call :: events, active)
    else ([.called index call], some ⟨index, now + duration, call, later, task⟩)

/-- Begins waiting tasks, in order, while there is room. -/
def fill (limit now : Nat) :
    List (Active κ) → List (Waiting κ) → List (Event κ) × List (Active κ) × List (Waiting κ)
  | active, [] => ([], active, [])
  | active, (index, task) :: waiting =>
    if active.length < limit then
      let (events, begun) := proceed now index task task.calls
      let (later, active, waiting) := fill limit now (active ++ begun.toList) waiting
      (.began index :: events ++ later, active, waiting)
    else ([], active, (index, task) :: waiting)

/-- The task whose call returns first; of several the one that began first. -/
def earliest : List (Active κ) → Option (Active κ)
  | [] => none
  | a :: rest =>
    match earliest rest with
    | none => some a
    | some b => if b.due < a.due then some b else some a

/-- A task goes on in its place, or leaves it. -/
def replace (active : List (Active κ)) (index : Nat) (next : Option (Active κ)) :
    List (Active κ) :=
  active.flatMap fun a => if a.index = index then next.toList else [a]

/-- Each round ends one call that takes time, so their number bounds the rounds. -/
def rounds (limit : Nat) : Nat → Nat → List (Active κ) → List (Waiting κ) → List (Event κ)
  | 0, _, _, _ => []
  | fuel + 1, now, active, waiting =>
    let (begun, active, waiting) := fill limit now active waiting
    match earliest active with
    | none => begun
    | some a =>
      let (events, next) := proceed a.due a.index a.task a.later
      begun ++ .returned a.index a.call :: events ++
        rounds limit fuel a.due (replace active a.index next) waiting

/-- The counts of the members of a list, all together. -/
def total {α : Type} (count : α → Nat) : List α → Nat
  | [] => 0
  | x :: rest => count x + total count rest

/-- Everything that happens until the last task ends. This is what is assumed of the pool: tasks begin
in the order they wait in, each as soon as fewer than `limit` are under way; a task is taken up again
at the moment its call returns; and of calls that return at the same moment, that of the task which
began first comes first. -/
def run (limit : Nat) (tasks : List (Waiting κ)) : List (Event κ) :=
  rounds limit (total (fun task => task.2.calls.length) tasks + 1) 0 [] tasks

end Pool

end BulkActions.Run
