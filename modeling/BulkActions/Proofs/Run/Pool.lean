import BulkActions.Proofs.Run.Agenda
import BulkActions.Run.Pool

/-! Tasks under way together all end. A pool takes the steps of an agenda: what happens to a task is
its calls one after the other and then its end, and calls that take time bound the rounds. -/

namespace BulkActions.Run.Pool

variable {κ : Type}

/-- What a task comes to, by its position. -/
def Waiting.result (w : Waiting κ) : Nat × Option Job.Error := (w.1, w.2.failure)

/-- What is left to do for a task that has not begun. -/
def Waiting.work (w : Waiting κ) : Work κ := ⟨w.1, w.2.calls.map Prod.fst, w.2.failure⟩

def Active.work (a : Active κ) : Work κ := ⟨a.index, a.later.map Prod.fst, a.task.failure⟩

/-- What is left to do for the tasks of a pool, and for batches ahead. -/
def agenda (active : List (Active κ)) (waiting : List (Waiting κ)) (ahead : List (Batch κ)) :
    Agenda κ :=
  ⟨active.map Active.work, waiting.map Waiting.work, ahead⟩

@[simp] theorem total_nil {α : Type} (count : α → Nat) : total count [] = 0 := rfl

@[simp] theorem total_cons {α : Type} (count : α → Nat) (x : α) (rest : List α) :
    total count (x :: rest) = count x + total count rest := rfl

@[simp] theorem total_append {α : Type} (count : α → Nat) (xs ys : List α) :
    total count (xs ++ ys) = total count xs + total count ys := by
  induction xs with
  | nil => simp
  | cons x rest ih => simp [ih, Nat.add_assoc]

/-- The calls still to return. -/
def callsLeft (active : List (Active κ)) (waiting : List (Waiting κ)) : Nat :=
  total (fun a => a.later.length + 1) active + total (fun w => w.2.calls.length) waiting

theorem calls_proceed (now index : Nat) (task : Task κ) (later : List (κ × Nat)) :
    total (fun a => a.later.length + 1) (proceed now index task later).2.toList ≤ later.length := by
  induction later with
  | nil => simp [proceed]
  | cons call rest ih =>
    obtain ⟨call, duration⟩ := call
    by_cases instant : duration = 0
    · simp only [proceed, instant, ↓reduceIte, List.length_cons]
      omega
    · simp [proceed, instant]

/-- A task goes on in its place, or leaves it. -/
theorem steps_proceed (limit now index : Nat) (task : Task κ) (later : List (κ × Nat))
    (before after : List (Work κ)) (waiting : List (Work κ)) (ahead : List (Batch κ)) :
    Agenda.Steps limit
      ⟨before ++ ⟨index, later.map Prod.fst, task.failure⟩ :: after, waiting, ahead⟩
      (proceed now index task later).1
      ⟨before ++ ((proceed now index task later).2.toList.map Active.work ++ after), waiting,
        ahead⟩ := by
  induction later with
  | nil =>
    have noted : ∀ (entries : List Journal.Entry) (a : Agenda κ),
        Agenda.Steps limit a (entries.map .noted) a := by
      intro entries a
      induction entries with
      | nil => exact .nil a
      | cons entry rest ih => exact .cons (.noted a entry) ih
    exact (noted task.notes _).append
      (.cons (.ended before after index task.failure waiting ahead) (.nil _))
  | cons call rest ih =>
    obtain ⟨call, duration⟩ := call
    have made : Agenda.Step limit _ (.called index call) _ :=
      .called before after index call (rest.map Prod.fst) task.failure waiting ahead
    by_cases instant : duration = 0
    · simp only [proceed, instant, ↓reduceIte]
      have returned : Agenda.Step limit
          ⟨before ++ ⟨index, rest.map Prod.fst, task.failure⟩ :: after, waiting, ahead⟩
          (.returned index call) _ :=
        .returned (w := ⟨index, rest.map Prod.fst, task.failure⟩) (by simp) call
      exact .cons made (.cons returned ih)
    · simp only [proceed, instant, ↓reduceIte]
      exact .cons made (.nil _)

theorem fill_of_room {limit : Nat} {active : List (Active κ)} (room : active.length < limit)
    (now index : Nat) (task : Task κ) (waiting : List (Waiting κ)) :
    fill limit now active ((index, task) :: waiting) =
      (.began index :: (proceed now index task task.calls).1 ++
          (fill limit now (active ++ (proceed now index task task.calls).2.toList) waiting).1,
        (fill limit now (active ++ (proceed now index task task.calls).2.toList) waiting).2) := by
  simp only [fill, room, ↓reduceIte]

theorem fill_of_full {limit : Nat} {active : List (Active κ)} (full : ¬ active.length < limit)
    (now : Nat) (waiting : List (Waiting κ)) :
    fill limit now active waiting = ([], active, waiting) := by
  cases waiting with
  | nil => rfl
  | cons w rest => simp only [fill, full, ↓reduceIte]

theorem steps_fill (limit now : Nat) (active : List (Active κ)) (waiting : List (Waiting κ))
    (ahead : List (Batch κ)) :
    Agenda.Steps limit (agenda active waiting ahead) (fill limit now active waiting).1
      (agenda (fill limit now active waiting).2.1 (fill limit now active waiting).2.2 ahead) := by
  induction waiting generalizing active with
  | nil => exact .nil _
  | cons w rest ih =>
    obtain ⟨index, task⟩ := w
    by_cases room : active.length < limit
    · rw [fill_of_room room]
      have free : (active.map Active.work).length < limit := by simpa using room
      have begun := Agenda.Step.began free
        (Waiting.work (index, task)) (rest.map Waiting.work) ahead
      have proceeded := steps_proceed limit now index task task.calls (active.map Active.work) []
        (rest.map Waiting.work) ahead
      have later := ih (active ++ (proceed now index task task.calls).2.toList)
      simp only [agenda, List.map_append, List.append_nil] at proceeded later ⊢
      exact .cons begun (proceeded.append later)
    · rw [fill_of_full room]
      exact .nil _

theorem calls_fill (limit now : Nat) (active : List (Active κ)) (waiting : List (Waiting κ)) :
    callsLeft (fill limit now active waiting).2.1 (fill limit now active waiting).2.2 ≤
      callsLeft active waiting := by
  induction waiting generalizing active with
  | nil => exact Nat.le_refl _
  | cons w rest ih =>
    obtain ⟨index, task⟩ := w
    by_cases room : active.length < limit
    · have fewer := ih (active ++ (proceed now index task task.calls).2.toList)
      have begun := calls_proceed now index task task.calls
      rw [fill_of_room room]
      simp only [callsLeft, total_append, total_cons] at fewer ⊢
      omega
    · exact Nat.le_of_eq (by rw [fill_of_full room])

/-- A task waits only while others are active. -/
theorem fill_waiting_eq_nil {limit : Nat} (positive : 0 < limit) (now : Nat)
    (active : List (Active κ)) (waiting : List (Waiting κ))
    (idle : (fill limit now active waiting).2.1 = []) :
    (fill limit now active waiting).2.2 = [] := by
  induction waiting generalizing active with
  | nil => rfl
  | cons w rest ih =>
    obtain ⟨index, task⟩ := w
    by_cases room : active.length < limit
    · rw [fill_of_room room] at idle ⊢
      exact ih _ idle
    · rw [fill_of_full room] at idle
      subst idle
      exact absurd positive room

theorem mem_of_earliest {active : List (Active κ)} {a : Active κ}
    (first : earliest active = some a) : a ∈ active := by
  induction active generalizing a with
  | nil => simp [earliest] at first
  | cons b rest ih =>
    simp only [earliest] at first
    split at first
    · cases first
      exact List.mem_cons_self
    · rename_i c next
      split at first
      · cases first
        exact List.mem_cons_of_mem _ (ih next)
      · cases first
        exact List.mem_cons_self

theorem eq_nil_of_earliest {active : List (Active κ)} (none : earliest active = none) :
    active = [] := by
  cases active with
  | nil => rfl
  | cons b rest =>
    simp only [earliest] at none
    split at none
    · cases none
    · split at none <;> cases none

theorem replace_of_absent {active : List (Active κ)} {index : Nat}
    (absent : ∀ a ∈ active, a.index ≠ index) (next : Option (Active κ)) :
    replace active index next = active := by
  induction active with
  | nil => rfl
  | cons a rest ih =>
    have other := absent a (by simp)
    have tail := ih (fun b member => absent b (by simp [member]))
    simp only [replace] at tail
    simp only [replace, List.flatMap_cons, other, ↓reduceIte, List.singleton_append, tail]

/-- Where positions are distinct, a task is replaced in its place and no other is. -/
theorem replace_eq_append {active : List (Active κ)} {a : Active κ} (member : a ∈ active)
    (distinct : (active.map Active.index).Nodup) (next : Option (Active κ)) :
    ∃ before after, active = before ++ a :: after ∧
      replace active a.index next = before ++ (next.toList ++ after) := by
  obtain ⟨before, after, split⟩ := List.append_of_mem member
  refine ⟨before, after, split, ?_⟩
  rw [split, List.map_append, List.map_cons] at distinct
  obtain ⟨_, rest, apart⟩ := List.nodup_append.mp distinct
  have earlier : ∀ b ∈ before, b.index ≠ a.index := by
    intro b present same
    exact apart b.index (List.mem_map_of_mem present) a.index List.mem_cons_self same
  have later : ∀ b ∈ after, b.index ≠ a.index := by
    intro b present same
    exact (List.nodup_cons.mp rest).1 (same ▸ List.mem_map_of_mem present)
  have first := replace_of_absent earlier next
  have last := replace_of_absent later next
  simp only [replace] at first last
  simp only [split, replace, List.flatMap_append, List.flatMap_cons, ↓reduceIte, first, last]

section Rounds

variable {limit now : Nat} {active : List (Active κ)} {waiting : List (Waiting κ)}

theorem rounds_of_idle (idle : earliest (fill limit now active waiting).2.1 = none)
    {fuel : Nat} : rounds limit (fuel + 1) now active waiting =
      (fill limit now active waiting).1 := by
  simp only [rounds, idle]

theorem rounds_of_earliest {a : Active κ}
    (first : earliest (fill limit now active waiting).2.1 = some a) {fuel : Nat} :
    rounds limit (fuel + 1) now active waiting =
      (fill limit now active waiting).1 ++
        .returned a.index a.call :: (proceed a.due a.index a.task a.later).1 ++
        rounds limit fuel a.due (replace (fill limit now active waiting).2.1 a.index
          (proceed a.due a.index a.task a.later).2) (fill limit now active waiting).2.2 := by
  simp only [rounds, first]

end Rounds

theorem nodup_index {active : List (Active κ)} {waiting : List (Waiting κ)} {ahead : List (Batch κ)}
    (distinct : ((agenda active waiting ahead).results.map Prod.fst).Nodup) :
    (active.map Active.index).Nodup := by
  simp only [agenda, Agenda.results, Agenda.works, List.map_append, List.map_map,
    List.append_assoc] at distinct
  exact (List.nodup_append.mp distinct).1

/-- When a call returns, its task ends or goes on with fewer calls to make; nothing else changes. -/
theorem steps_replace {active : List (Active κ)} {a : Active κ} (member : a ∈ active)
    (distinct : (active.map Active.index).Nodup) (limit : Nat) (waiting : List (Waiting κ))
    (ahead : List (Batch κ)) :
    Agenda.Steps limit (agenda active waiting ahead)
      (.returned a.index a.call :: (proceed a.due a.index a.task a.later).1)
      (agenda (replace active a.index (proceed a.due a.index a.task a.later).2) waiting ahead) ∧
    callsLeft (replace active a.index (proceed a.due a.index a.task a.later).2) waiting <
      callsLeft active waiting := by
  obtain ⟨before, after, split, replaced⟩ :=
    replace_eq_append member distinct (proceed a.due a.index a.task a.later).2
  rw [replaced]
  constructor
  · have proceeded := steps_proceed limit a.due a.index a.task a.later (before.map Active.work)
      (after.map Active.work) (waiting.map Waiting.work) ahead
    have returned : Agenda.Step limit (agenda active waiting ahead) (.returned a.index a.call) _ :=
      .returned (w := a.work) (List.mem_map_of_mem member) a.call
    rw [agenda, split] at returned ⊢
    simp only [agenda, List.map_append, List.map_cons] at returned ⊢
    exact .cons returned proceeded
  · have fewer := calls_proceed a.due a.index a.task a.later
    simp only [split, callsLeft, total_append, total_cons]
    omega

/-- The rounds bring everything to its end. -/
theorem steps_rounds {limit : Nat} (positive : 0 < limit) {fuel : Nat} (now : Nat)
    {active : List (Active κ)} {waiting : List (Waiting κ)} (ahead : List (Batch κ))
    (distinct : ((agenda active waiting ahead).results.map Prod.fst).Nodup)
    (enough : callsLeft active waiting < fuel) :
    Agenda.Steps limit (agenda active waiting ahead) (rounds limit fuel now active waiting)
      (.fresh ahead) := by
  induction fuel generalizing now active waiting with
  | zero => exact absurd enough (Nat.not_lt_zero _)
  | succ fuel ih =>
    have filled := steps_fill limit now active waiting ahead
    have fewer := calls_fill limit now active waiting
    cases first : earliest (fill limit now active waiting).2.1 with
    | none =>
      have idle := eq_nil_of_earliest first
      rw [rounds_of_idle first]
      rw [fill_waiting_eq_nil positive now active waiting idle, idle] at filled
      exact filled
    | some a =>
      rw [rounds_of_earliest first]
      generalize fill limit now active waiting = next at filled fewer first
      have filledDistinct := filled.distinct distinct
      obtain ⟨returned, less⟩ := steps_replace (mem_of_earliest first)
        (nodup_index filledDistinct) limit next.2.2 ahead
      have rest := ih a.due (returned.distinct filledDistinct) (by omega)
      rw [List.append_assoc]
      exact filled.append (returned.append rest)

/-- Tasks under way together take the steps of an agenda, and nothing of them is left. -/
theorem steps_run {limit : Nat} (positive : 0 < limit) (tasks : List (Waiting κ))
    (ahead : List (Batch κ))
    (distinct : ((agenda [] tasks ahead).results.map Prod.fst).Nodup) :
    Agenda.Steps limit (agenda [] tasks ahead) (run limit tasks) (.fresh ahead) :=
  steps_rounds positive 0 ahead distinct (by simp [callsLeft])

/-- Every task ends exactly once. -/
theorem completions_run {limit : Nat} (positive : 0 < limit) {tasks : List (Waiting κ)}
    (distinct : (tasks.map Prod.fst).Nodup) :
    (completions (run limit tasks)).Perm (tasks.map Waiting.result) := by
  have results : (agenda [] tasks []).results = tasks.map Waiting.result := by
    simp [agenda, Agenda.results, Agenda.works, Function.comp_def, Waiting.work, Work.result,
      Waiting.result]
  have positioned : ((agenda [] tasks []).results.map Prod.fst).Nodup := by
    simpa [results, Function.comp_def, Waiting.result] using distinct
  have ended := (steps_run positive tasks [] positioned).results
  rw [results] at ended
  simpa [Agenda.fresh, Agenda.results, Agenda.works] using ended

theorem ofTask_proceed (now index : Nat) (task : Task κ) (later : List (κ × Nat)) :
    ∀ e ∈ (proceed now index task later).1, e.OfTask := by
  induction later with
  | nil =>
    intro e member
    simp only [proceed, List.mem_append, List.mem_map, List.mem_singleton] at member
    rcases member with ⟨entry, _, noted⟩ | ended
    · rw [← noted]; trivial
    · rw [ended]; trivial
  | cons call rest ih =>
    obtain ⟨call, duration⟩ := call
    by_cases instant : duration = 0
    · simpa [proceed, instant, Event.OfTask] using ih
    · simp [proceed, instant, Event.OfTask]

theorem ofTask_fill (limit now : Nat) (active : List (Active κ)) (waiting : List (Waiting κ)) :
    ∀ e ∈ (fill limit now active waiting).1, e.OfTask := by
  induction waiting generalizing active with
  | nil => simp [fill]
  | cons w rest ih =>
    obtain ⟨index, task⟩ := w
    by_cases room : active.length < limit
    · rw [fill_of_room room]
      intro e member
      rcases List.mem_append.mp member with begun | later
      · rcases List.mem_cons.mp begun with first | proceeded
        · rw [first]; trivial
        · exact ofTask_proceed now index task task.calls e proceeded
      · exact ih _ e later
    · rw [fill_of_full room]
      simp

theorem ofTask_rounds (limit fuel now : Nat) (active : List (Active κ))
    (waiting : List (Waiting κ)) : ∀ e ∈ rounds limit fuel now active waiting, e.OfTask := by
  induction fuel generalizing now active waiting with
  | zero => simp [rounds]
  | succ fuel ih =>
    have filled := ofTask_fill limit now active waiting
    cases first : earliest (fill limit now active waiting).2.1 with
    | none =>
      rw [rounds_of_idle first]
      exact filled
    | some a =>
      rw [rounds_of_earliest first]
      intro e member
      rcases List.mem_append.mp member with begun | later
      · rcases List.mem_append.mp begun with started | returned
        · exact filled e started
        · rcases List.mem_cons.mp returned with call | proceeded
          · rw [call]; trivial
          · exact ofTask_proceed _ _ _ _ e proceeded
      · exact ih _ _ _ e later

end BulkActions.Run.Pool
