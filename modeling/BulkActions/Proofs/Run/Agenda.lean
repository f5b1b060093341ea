import BulkActions.Proofs.Run.State

/-! What is left to do for a stream, and what may happen next to it. Whatever the order of events,
each step takes its calls and its results off what is left, keeps within the limit, and takes a
batch only when nothing is left of the one before. -/

namespace BulkActions.Run

open Job

variable {κ : Type}

section Views

/-- The calls made, with the positions of the records they were made for. -/
def callsMade (events : List (Event κ)) : List (Nat × κ) :=
  events.filterMap fun
    | .called index call => some (index, call)
    | _ => none

/-- The numbers of items taken from the stream at once. -/
def pulls (events : List (Event κ)) : List Nat :=
  events.filterMap fun
    | .pulled count => some count
    | _ => none

/-- The records under way after an event. -/
def unfinishedAfter (before : List Nat) : Event κ → List Nat
  | .began index => before ++ [index]
  | .ended index _ => before.erase index
  | _ => before

/-- The records whose work has begun and has not ended. -/
def unfinished (events : List (Event κ)) : List Nat := events.foldl unfinishedAfter []

variable (earlier later : List (Event κ))

@[simp] theorem callsMade_append :
    callsMade (earlier ++ later) = callsMade earlier ++ callsMade later := by
  simp [callsMade]

@[simp] theorem pulls_append : pulls (earlier ++ later) = pulls earlier ++ pulls later := by
  simp [pulls]

end Views

/-- What is left to do for a record: calls to make, and what its work comes to. -/
structure Work (κ : Type) where
  index : Nat
  calls : List κ
  failure : Option Error

def Work.result (w : Work κ) : Nat × Option Error := (w.index, w.failure)

def Work.callsFor (w : Work κ) : List (Nat × κ) := w.calls.map fun call => (w.index, call)

/-- A batch that was not taken yet: its number of items, and what is to be done for its records. -/
structure Batch (κ : Type) where
  size : Nat
  works : List (Work κ)

/-- What is left to do for a stream: for records under way, for records of the same batch that have
not begun, and for batches ahead. -/
structure Agenda (κ : Type) where
  active : List (Work κ)
  waiting : List (Work κ)
  ahead : List (Batch κ)

namespace Agenda

/-- Everything that is left. -/
def works (a : Agenda κ) : List (Work κ) := a.active ++ a.waiting ++ a.ahead.flatMap Batch.works

def results (a : Agenda κ) : List (Nat × Option Error) := a.works.map Work.result

def callsLeft (a : Agenda κ) : List (Nat × κ) := a.works.flatMap Work.callsFor

/-- What may happen next, at any time and in any order: the calls of a record follow one another,
and those of different records have nothing to do with each other. -/
inductive Step (limit : Nat) : Agenda κ → Event κ → Agenda κ → Prop where
  | pulled (batch : Batch κ) (ahead : List (Batch κ)) :
      Step limit ⟨[], [], batch :: ahead⟩ (.pulled batch.size) ⟨[], batch.works, ahead⟩
  | began {active : List (Work κ)} (room : active.length < limit) (w : Work κ)
      (waiting : List (Work κ)) (ahead : List (Batch κ)) :
      Step limit ⟨active, w :: waiting, ahead⟩ (.began w.index) ⟨active ++ [w], waiting, ahead⟩
  | called (before after : List (Work κ)) (index : Nat) (call : κ) (later : List κ)
      (failure : Option Error) (waiting : List (Work κ)) (ahead : List (Batch κ)) :
      Step limit ⟨before ++ ⟨index, call :: later, failure⟩ :: after, waiting, ahead⟩
        (.called index call) ⟨before ++ ⟨index, later, failure⟩ :: after, waiting, ahead⟩
  | returned {a : Agenda κ} {w : Work κ} (member : w ∈ a.active) (call : κ) :
      Step limit a (.returned w.index call) a
  | ended (before after : List (Work κ)) (index : Nat) (failure : Option Error)
      (waiting : List (Work κ)) (ahead : List (Batch κ)) :
      Step limit ⟨before ++ ⟨index, [], failure⟩ :: after, waiting, ahead⟩ (.ended index failure)
        ⟨before ++ after, waiting, ahead⟩
  | noted (a : Agenda κ) (entry : Journal.Entry) : Step limit a (.noted entry) a
  | wrote (a : Agenda κ) (u : Update) (refusal : Option Error) : Step limit a (.wrote u refusal) a

/-- A list of events, one step each. -/
inductive Steps (limit : Nat) : Agenda κ → List (Event κ) → Agenda κ → Prop where
  | nil (a : Agenda κ) : Steps limit a [] a
  | cons {a b c : Agenda κ} {e : Event κ} {events : List (Event κ)} (first : Step limit a e b)
      (rest : Steps limit b events c) : Steps limit a (e :: events) c

/-- At most `limit` records are under way, and no more than `size` of one batch. -/
structure Fits (limit size : Nat) (a : Agenda κ) : Prop where
  active : a.active.length ≤ limit
  batch : a.active.length + a.waiting.length ≤ size
  ahead : ∀ batch ∈ a.ahead, batch.works.length ≤ size

/-- After `number` batches of `size` items, the last of them is worked on and the next ones are
ahead. -/
structure Placed (size number : Nat) (a : Agenda κ) : Prop where
  batch : ∀ index ∈ (a.active ++ a.waiting).map Work.index, index / size + 1 = number
  ahead : ∀ later batch, a.ahead[later]? = some batch →
    ∀ w ∈ batch.works, w.index / size = number + later

variable {limit size number : Nat} {a b c : Agenda κ} {e : Event κ}
  {events earlier later : List (Event κ)}

namespace Step

/-- A step takes off what is left exactly the result it brings. -/
theorem results (step : Step limit a e b) : (completions [e] ++ b.results).Perm a.results := by
  cases step with
  | pulled | began | called => simp [Agenda.results, works, completions, Work.result]
  | returned | noted | wrote => exact .refl _
  | ended before after index failure waiting ahead =>
    simpa [Agenda.results, works, completions, Work.result] using List.perm_middle.symm

/-- So does a call. -/
theorem callsLeft (step : Step limit a e b) :
    (callsMade [e] ++ b.callsLeft).Perm a.callsLeft := by
  cases step with
  | pulled | began | ended => simp [Agenda.callsLeft, works, callsMade, Work.callsFor]
  | returned | noted | wrote => exact .refl _
  | called before after index call later failure waiting ahead =>
    simpa [Agenda.callsLeft, works, callsMade, Work.callsFor] using List.perm_middle.symm

/-- Batches are taken in order. -/
theorem sizes (step : Step limit a e b) :
    pulls [e] ++ b.ahead.map Batch.size = a.ahead.map Batch.size := by
  cases step <;> rfl

theorem distinct (step : Step limit a e b) (nodup : (a.results.map Prod.fst).Nodup) :
    (b.results.map Prod.fst).Nodup := by
  have all := ((step.results.map Prod.fst).nodup_iff).mpr nodup
  rw [List.map_append] at all
  exact (List.nodup_append.mp all).2.1

/-- The active records are those that have begun and not ended. -/
theorem unfinished (step : Step limit a e b) (nodup : (a.results.map Prod.fst).Nodup) :
    unfinishedAfter (a.active.map Work.index) e = b.active.map Work.index := by
  cases step with
  | pulled | called | returned | noted | wrote => simp [unfinishedAfter]
  | began room w waiting ahead => simp [unfinishedAfter]
  | ended before after index failure waiting ahead =>
    -- `erase` takes the first record of this position, so no other may have it.
    have fresh : index ∉ before.map Work.index := by
      simp only [Agenda.results, works, List.map_append, List.map_cons, List.append_assoc,
        List.map_map] at nodup
      intro member
      exact (List.nodup_append.mp nodup).2.2 index member index List.mem_cons_self rfl
    simp [unfinishedAfter, List.erase_append_right _ fresh]

theorem fits (step : Step limit a e b) (fits : a.Fits limit size) : b.Fits limit size := by
  obtain ⟨active, batch, ahead⟩ := fits
  cases step with
  | pulled next rest =>
    obtain ⟨first, later⟩ := List.forall_mem_cons.mp ahead
    exact ⟨Nat.zero_le _, by simpa using first, later⟩
  | began room w waiting rest =>
    simp only [List.length_cons] at batch
    constructor
    · simp only [List.length_append, List.length_singleton]; omega
    · simp only [List.length_append, List.length_singleton]; omega
    · exact ahead
  | called before after index call later failure waiting rest =>
    exact ⟨by simpa using active, by simpa using batch, ahead⟩
  | ended before after index failure waiting rest =>
    simp only [List.length_append, List.length_cons] at active batch
    constructor
    · simp only [List.length_append]; omega
    · simp only [List.length_append]; omega
    · exact ahead
  | returned | noted | wrote => exact ⟨active, batch, ahead⟩

theorem placed (step : Step limit a e b) (placed : a.Placed size number) :
    b.Placed size (number + (pulls [e]).length) := by
  obtain ⟨batch, ahead⟩ := placed
  cases step with
  | pulled next rest =>
    constructor
    · intro index member
      obtain ⟨w, inside, rfl⟩ := List.mem_map.mp member
      have first := ahead 0 next rfl w (by simpa using inside)
      exact congrArg (· + 1) first
    · intro later more found w member
      have second := ahead (later + 1) more (by simpa using found) w member
      simp only [pulls, List.filterMap_cons, List.filterMap_nil, List.length_singleton]
      omega
  | began room w waiting rest =>
    exact ⟨fun index member => batch index (by simpa using member), ahead⟩
  | called before after index call later failure waiting rest =>
    exact ⟨fun other member => batch other (by simpa using member), ahead⟩
  | ended before after index failure waiting rest =>
    refine ⟨fun other member => batch other ?_, ahead⟩
    have kept : ((before ++ after) ++ waiting).Sublist
        ((before ++ ⟨index, [], failure⟩ :: after) ++ waiting) :=
      (List.Sublist.append_left (List.sublist_cons_self _ _) before).append_right waiting
    exact (kept.map Work.index).subset member
  | returned | noted | wrote => exact ⟨batch, ahead⟩

end Step

namespace Steps

theorem append (first : Steps limit a earlier b) (second : Steps limit b later c) :
    Steps limit a (earlier ++ later) c := by
  induction first with
  | nil a => exact second
  | cons step _ ih => exact .cons step (ih second)

theorem split (steps : Steps limit a (earlier ++ later) c) :
    ∃ b, Steps limit a earlier b ∧ Steps limit b later c := by
  induction earlier generalizing a with
  | nil => exact ⟨a, .nil a, steps⟩
  | cons e rest ih =>
    cases steps with
    | cons step tail =>
      obtain ⟨b, first, second⟩ := ih tail
      exact ⟨b, .cons step first, second⟩

/-- What every step takes off what is left, all steps together take off it. -/
theorem takeOff {β : Type} {done : List (Event κ) → List β} {left : Agenda κ → List β}
    (nil : done [] = []) (append : ∀ xs ys, done (xs ++ ys) = done xs ++ done ys)
    (step : ∀ {a b : Agenda κ} {e : Event κ}, Step limit a e b → (done [e] ++ left b).Perm (left a))
    (steps : Steps limit a events b) : (done events ++ left b).Perm (left a) := by
  induction steps with
  | nil a => rw [nil, List.nil_append]
  | @cons a b c e events first _ ih =>
    calc done ([e] ++ events) ++ left c
      _ = done [e] ++ (done events ++ left c) := by rw [append, List.append_assoc]
      _ |>.Perm (done [e] ++ left b) := ih.append_left _
      _ |>.Perm (left a) := step first

theorem results (steps : Steps limit a events b) :
    (completions events ++ b.results).Perm a.results :=
  steps.takeOff rfl completions_append Step.results

theorem callsLeft (steps : Steps limit a events b) :
    (callsMade events ++ b.callsLeft).Perm a.callsLeft :=
  steps.takeOff rfl callsMade_append Step.callsLeft

theorem sizes (steps : Steps limit a events b) :
    pulls events ++ b.ahead.map Batch.size = a.ahead.map Batch.size := by
  induction steps with
  | nil a => rfl
  | @cons a b c e events step _ ih =>
    calc pulls (e :: events) ++ c.ahead.map Batch.size
      _ = pulls [e] ++ (pulls events ++ c.ahead.map Batch.size) := by
          rw [← List.append_assoc, ← pulls_append]
          rfl
      _ = a.ahead.map Batch.size := by rw [ih, step.sizes]

/-- What every step keeps holds to the end. -/
theorem invariant {holds : Agenda κ → Prop}
    (keeps : ∀ {a b : Agenda κ} {e : Event κ}, Step limit a e b → holds a → holds b)
    (steps : Steps limit a events b) (start : holds a) : holds b := by
  induction steps with
  | nil a => exact start
  | cons step _ ih => exact ih (keeps step start)

theorem distinct (steps : Steps limit a events b) (nodup : (a.results.map Prod.fst).Nodup) :
    (b.results.map Prod.fst).Nodup :=
  steps.invariant Step.distinct nodup

theorem unfinished (steps : Steps limit a events b) (nodup : (a.results.map Prod.fst).Nodup) :
    events.foldl unfinishedAfter (a.active.map Work.index) = b.active.map Work.index := by
  induction steps with
  | nil a => rfl
  | cons step _ ih => rw [List.foldl_cons, step.unfinished nodup, ih (step.distinct nodup)]

theorem fits (steps : Steps limit a events b) (fits : a.Fits limit size) : b.Fits limit size :=
  steps.invariant Step.fits fits

theorem placed (steps : Steps limit a events b) (placed : a.Placed size number) :
    b.Placed size (number + (pulls events).length) := by
  induction steps generalizing number with
  | nil a => exact placed
  | @cons a b c e events step _ ih =>
    have counted : (pulls (e :: events)).length = (pulls [e]).length + (pulls events).length := by
      rw [← List.length_append, ← pulls_append]
      rfl
    rw [counted, ← Nat.add_assoc]
    exact ih (step.placed placed)

end Steps

namespace Placed

/-- What lies ahead belongs to later batches. -/
theorem le_of_ahead (placed : a.Placed size number) {w : Work κ}
    (member : w ∈ a.ahead.flatMap Batch.works) : number ≤ w.index / size := by
  obtain ⟨batch, present, inside⟩ := List.mem_flatMap.mp member
  obtain ⟨later, found⟩ := List.getElem?_of_mem present
  have same := placed.ahead later batch found w inside
  omega

/-- What is left belongs to the batch that is worked on, or to later ones. -/
theorem le_of_left (placed : a.Placed size number) {result : Nat × Option Error}
    (left : result ∈ a.results) : number ≤ result.1 / size + 1 := by
  obtain ⟨w, member, rfl⟩ := List.mem_map.mp left
  rcases List.mem_append.mp member with now | ahead
  · exact Nat.le_of_eq (placed.batch w.index (List.mem_map_of_mem now)).symm
  · exact Nat.le_succ_of_le (placed.le_of_ahead ahead)

end Placed

/-- Nothing was taken yet. -/
def fresh (batches : List (Batch κ)) : Agenda κ := ⟨[], [], batches⟩

section Fresh

variable {batches : List (Batch κ)}

/-- At every moment the limit holds, and no more records are under way than a batch has. -/
theorem length_unfinished_le (steps : Steps limit (fresh batches) (earlier ++ later) c)
    (nodup : ((fresh batches).results.map Prod.fst).Nodup)
    (fit : ∀ batch ∈ batches, batch.works.length ≤ size) :
    (unfinished earlier).length ≤ min limit size := by
  obtain ⟨b, first, _⟩ := steps.split
  have begun : (fresh batches).Fits limit size := ⟨Nat.zero_le _, Nat.zero_le _, fit⟩
  have active : unfinished earlier = b.active.map Work.index := first.unfinished nodup
  obtain ⟨within, batch, _⟩ := first.fits begun
  rw [active, List.length_map]
  omega

/-- Calls are made and return only while their records are under way. -/
theorem mem_unfinished_of_call {index : Nat} {call : κ}
    (steps : Steps limit (fresh batches) (earlier ++ e :: later) c)
    (nodup : ((fresh batches).results.map Prod.fst).Nodup)
    (during : e = .called index call ∨ e = .returned index call) : index ∈ unfinished earlier := by
  obtain ⟨b, first, rest⟩ := steps.split
  have active : unfinished earlier = b.active.map Work.index := first.unfinished nodup
  rw [active]
  cases rest with
  | cons step _ =>
    rcases during with rfl | rfl
    · cases step with
      | called before after index call later failure waiting ahead => simp
    · cases step with
      | returned member call => exact List.mem_map_of_mem member

/-- What is not left has ended. -/
theorem ended_of_not_left {result : Nat × Option Error} (steps : Steps limit a events b)
    (expected : result ∈ a.results) (gone : result ∉ b.results) : result ∈ completions events :=
  (List.mem_append.mp (steps.results.mem_iff.mpr expected)).resolve_right gone

/-- A record begins only within the batch taken last, and once one begins, the work on all records
of earlier batches has ended. -/
theorem ended_of_began {index : Nat}
    (steps : Steps limit (fresh batches) (earlier ++ .began index :: later) c)
    (placed : (fresh batches).Placed size 0) :
    index / size + 1 = (pulls earlier).length ∧
    ∀ result ∈ (fresh batches).results, result.1 / size < index / size →
      result ∈ completions earlier := by
  obtain ⟨b, first, rest⟩ := steps.split
  have now := first.placed placed
  rw [Nat.zero_add] at now
  cases rest with
  | cons step _ =>
    cases step with
    | began room w waiting ahead =>
      have own := now.batch w.index (by simp)
      refine ⟨own, fun result expected before => ?_⟩
      refine ended_of_not_left first expected fun left => ?_
      have bound := now.le_of_left left
      omega

/-- A batch is taken only when nothing is under way, and the work on all records taken before has
ended. -/
theorem ended_of_pulled {count : Nat}
    (steps : Steps limit (fresh batches) (earlier ++ .pulled count :: later) c)
    (nodup : ((fresh batches).results.map Prod.fst).Nodup)
    (placed : (fresh batches).Placed size 0) :
    unfinished earlier = [] ∧
    ∀ result ∈ (fresh batches).results, result.1 / size < (pulls earlier).length →
      result ∈ completions earlier := by
  obtain ⟨b, first, rest⟩ := steps.split
  have now := first.placed placed
  rw [Nat.zero_add] at now
  have active := first.unfinished nodup
  cases rest with
  | cons step _ =>
    cases step with
    | pulled batch ahead =>
      refine ⟨active, fun result expected before => ?_⟩
      refine ended_of_not_left first expected fun left => ?_
      obtain ⟨w, member, rfl⟩ := List.mem_map.mp left
      have bound := now.le_of_ahead (by simpa [works] using member)
      simp only [Work.result] at before
      omega

end Fresh

end Agenda

end BulkActions.Run
