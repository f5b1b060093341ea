import BulkActions.Run.Samples

/-! The lines that samples keep. Lines come one at a time or in groups, of which only the first may be
kept. Whatever the order of the calls, the lines that stay are the first of those on offer, and each
call that brings one line learns whether it stays. -/

namespace BulkActions.Run

namespace Samples

theorem hasRoom_iff (s : Samples) : s.hasRoom = true ↔ s.lines.length < s.cap := decide_eq_true_iff

theorem push_of_room {s : Samples} (room : s.hasRoom = true) (line : String) :
    s.push line = ({ s with lines := s.lines ++ [line] }, true) := if_pos room

theorem push_of_full {s : Samples} (full : ¬ s.hasRoom = true) (line : String) :
    s.push line = (s, false) := if_neg full

/-- The answer to a line says whether there was room for it. -/
theorem push_snd (s : Samples) (line : String) : (s.push line).2 = s.hasRoom := by
  by_cases room : s.hasRoom = true
  · rw [push_of_room room, room]
  · rw [push_of_full room, eq_false_of_ne_true room]

/-- A line that finds no room leaves none for the lines behind it. -/
theorem pushAll_of_full {s : Samples} (full : ¬ s.hasRoom = true) (lines : List String) :
    s.pushAll lines = s := by
  induction lines with
  | nil => rfl
  | cons line rest ih => rw [pushAll_cons, push_of_full full, ih]

/-- Stopping at the first line that is not kept loses none that would be. -/
theorem pushWhileKept_eq_pushAll (s : Samples) (lines : List String) :
    s.pushWhileKept lines = s.pushAll lines := by
  induction lines generalizing s with
  | nil => rfl
  | cons line rest ih =>
    by_cases room : s.hasRoom = true
    · rw [pushWhileKept, pushAll_cons, push_of_room room]
      exact ih _
    · rw [pushWhileKept, pushAll_of_full room, push_of_full room]

theorem pushAll_append (s : Samples) (earlier later : List String) :
    s.pushAll (earlier ++ later) = (s.pushAll earlier).pushAll later := List.foldl_append

theorem cap_pushAll (s : Samples) (lines : List String) : (s.pushAll lines).cap = s.cap := by
  induction lines generalizing s with
  | nil => rfl
  | cons line rest ih => exact (ih (s.push line).1).trans (s.cap_push line)

/-- Of all lines the first ones are kept, as many as there is room for. -/
theorem lines_pushAll (s : Samples) (lines : List String) (bounded : s.lines.length ≤ s.cap) :
    (s.pushAll lines).lines = (s.lines ++ lines).take s.cap := by
  induction lines generalizing s with
  | nil => simpa [pushAll] using (List.take_of_length_le bounded).symm
  | cons line rest ih =>
    -- The bound stays with each line that is kept, and it is reached once a line is not.
    by_cases room : s.hasRoom = true
    · have within : (s.lines ++ [line]).length ≤ s.cap := by
        rw [List.length_append, List.length_singleton]
        exact s.hasRoom_iff.mp room
      calc ((s.push line).1.pushAll rest).lines
        _ = (s.lines ++ [line] ++ rest).take s.cap := by rw [push_of_room room]; exact ih _ within
        _ = (s.lines ++ line :: rest).take s.cap := by rw [← List.append_cons]
    · have full : s.lines.length = s.cap :=
        Nat.le_antisymm bounded (Nat.not_lt.mp fun free => room (s.hasRoom_iff.mpr free))
      rw [pushAll_of_full room, List.take_left' full]

/-- A call that brings lines to keep: a single one, or a group of which at most the first few may be
kept. -/
inductive Call where
  | push (line : String)
  | extend (lines : List String) (limit : Nat)

/-- The lines of a call that are kept if there is room. -/
def Call.onOffer : Call → List String
  | .push line => [line]
  | .extend lines limit => lines.take limit

def after (s : Samples) : Call → Samples
  | .push line => (s.push line).1
  | .extend lines limit => s.extend lines limit

/-- What a call returns: for a single line, whether it is kept. -/
def answer (s : Samples) : Call → Option Bool
  | .push line => some (s.push line).2
  | .extend _ _ => none

def afterAll (s : Samples) (calls : List Call) : Samples := calls.foldl after s

theorem after_eq_pushAll (s : Samples) (call : Call) : s.after call = s.pushAll call.onOffer := by
  cases call with
  | push line => rfl
  | extend lines limit => exact pushWhileKept_eq_pushAll s _

theorem afterAll_eq_pushAll (s : Samples) (calls : List Call) :
    s.afterAll calls = s.pushAll (calls.flatMap Call.onOffer) := by
  induction calls generalizing s with
  | nil => rfl
  | cons call rest ih =>
    calc (s.after call).afterAll rest
      _ = (s.pushAll call.onOffer).pushAll (rest.flatMap Call.onOffer) := by
          rw [ih, after_eq_pushAll]
      _ = s.pushAll ((call :: rest).flatMap Call.onOffer) := by
          rw [List.flatMap_cons, pushAll_append]

/-- Samples that start empty hold the first of all lines on offer, in the order of the calls. -/
theorem lines_afterAll_empty (cap : Nat) (calls : List Call) :
    ((empty cap).afterAll calls).lines = (calls.flatMap Call.onOffer).take cap := by
  rw [afterAll_eq_pushAll, lines_pushAll _ _ (Nat.zero_le _)]
  rfl

/-- There is room as long as fewer lines than the cap have been on offer. -/
theorem hasRoom_afterAll_empty (cap : Nat) (calls : List Call) :
    ((empty cap).afterAll calls).hasRoom = true ↔ (calls.flatMap Call.onOffer).length < cap := by
  have capped : ((empty cap).afterAll calls).cap = cap := by
    rw [afterAll_eq_pushAll, cap_pushAll, empty]
  rw [hasRoom_iff, lines_afterAll_empty, capped, List.length_take]
  omega

/-- Whatever calls bring lines to samples that start empty, and however many lines each group may keep,
the samples hold the first of all lines on offer in the order of the calls, as many as the cap allows. A
single line is told that it is kept exactly if it is among these: if it stands at its own place, right
behind the lines that were on offer before it. -/
theorem first_offered_lines_are_kept (cap : Nat) :
    (∀ calls : List Call,
      ((empty cap).afterAll calls).lines = (calls.flatMap Call.onOffer).take cap) ∧
    ∀ (earlier later : List Call) (line : String),
      ((empty cap).afterAll earlier).answer (.push line) = some true ↔
        ((empty cap).afterAll (earlier ++ .push line :: later)).lines[
          (earlier.flatMap Call.onOffer).length]? = some line := by
  refine ⟨lines_afterAll_empty cap, ?_⟩
  intro earlier later line
  have place : ((earlier ++ .push line :: later).flatMap Call.onOffer)[
      (earlier.flatMap Call.onOffer).length]? = some line := by
    rw [List.flatMap_append, List.flatMap_cons]
    simp [Call.onOffer]
  rw [answer, push_snd, Option.some_inj, hasRoom_afterAll_empty, lines_afterAll_empty,
    List.getElem?_take, place]
  by_cases room : (earlier.flatMap Call.onOffer).length < cap
  · exact ⟨fun _ => if_pos room, fun _ => room⟩
  · rw [if_neg room]
    exact ⟨fun free => absurd free room, nofun⟩

/-- The last line is refused, although it reads like one that is kept. -/
example :
    let calls := [Call.extend ["lost", "late"] 1, .push "odd", .push "lost"]
    ((empty 2).afterAll calls).lines = ["lost", "odd"] ∧
    ((empty 2).afterAll (calls.take 1)).answer (.push "odd") = some true ∧
    ((empty 2).afterAll (calls.take 2)).answer (.push "lost") = some false := by
  decide

end Samples

end BulkActions.Run
