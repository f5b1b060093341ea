import BulkActions.Path.Evaluate
import BulkActions.Proofs.Path.Frame

/-! What a path selects is part of the document: every step of the machine keeps to the parts of
the document, and so does a whole run. -/

namespace BulkActions.Path

variable {document : Json}

/-- A machine whose frames hold parts of the document alone. -/
structure Machine.Within (document : Json) (m : Machine) : Prop where
  frame : m.frame.Within document
  inner : ∀ f, m.inner = some f → f.Within document

namespace Machine

variable {m next : Machine}

theorem within_start : start.Within document :=
  ⟨⟨fun _ impossible => (nomatch impossible), fun _ member => (nomatch member)⟩,
    fun _ impossible => (nomatch impossible)⟩

theorem within_settle (within : m.Within document) (i : Instruction) :
    (m.settle i).Within document := by
  cases i with
  | root | here | compare op =>
    simp only [settle]
    split
    · exact within
    · rename_i f shape
      have operand := Term.within_ofNodes (Frame.within_current (within.inner f shape))
      exact ⟨Frame.within_push within.frame operand, fun _ impossible => (nomatch impossible)⟩
  | _ => exact within

private theorem within_root : Path.Within document [Node.root document] := .singleton .self

theorem within_step {i : Instruction} (within : m.Within document)
    (stepped : m.step document i = some next) : next.Within document := by
  have settled := within_settle within i
  unfold step at stepped
  dsimp only at stepped
  split at stepped
  · rename_i f shape
    obtain ⟨g, ran, rfl⟩ := Option.map_eq_some_iff.mp stepped
    refine ⟨settled.frame, fun h same => ?_⟩
    cases same
    exact Frame.within_run (settled.inner f shape) ran
  · split at stepped
    · cases stepped
      exact ⟨Frame.within_select settled.frame within_root, settled.inner⟩
    · cases stepped
      refine ⟨settled.frame, fun h same => ?_⟩
      cases same
      refine ⟨fun nodes same => ?_, fun _ member => (nomatch member)⟩
      exact Option.some.inj same ▸ within_root
    · obtain ⟨g, ran, rfl⟩ := Option.map_eq_some_iff.mp stepped
      exact ⟨Frame.within_run settled.frame ran, settled.inner⟩

theorem within_runAll {instructions : List Instruction} (within : m.Within document)
    (ran : m.runAll document instructions = some next) : next.Within document := by
  induction instructions generalizing m with
  | nil => cases ran; exact within
  | cons i rest ih =>
    rw [runAll] at ran
    split at ran
    · cases ran
    · rename_i stepped
      exact ih (within_step within stepped) ran

end Machine

theorem within_select? {e : Expr} {nodes : List Node} (selected : e.select? document = some nodes) :
    Within document nodes := by
  obtain ⟨m, ran, rfl⟩ := Option.map_eq_some_iff.mp selected
  exact Frame.within_current (Machine.within_runAll Machine.within_start ran).frame

/-- The evaluator at hand, taken to find nothing where it crashes. -/
instance library : Evaluator where
  select e document := ((e.select? document).getD []).map (·.value)
  part e document v member := by
    obtain ⟨n, reached, rfl⟩ := List.mem_map.mp member
    cases selected : e.select? document with
    | none => rw [selected] at reached; cases reached
    | some nodes => rw [selected] at reached; exact within_select? selected n reached

/-- It answers what the evaluator at hand does, and more where that one crashes. -/
def Evaluator.Completes (evaluator : Evaluator) : Prop :=
  ∀ (e : Expr) (document : Json) (nodes : List Node), e.select? document = some nodes →
    evaluator.select e document = nodes.map (·.value)

theorem completes_library : library.Completes := by
  intro e document nodes selected
  simp only [Evaluator.select, selected, Option.getD_some]

theorem crashes_iff {data : Json} {path : String} :
    crashes data path = true ↔ evaluate data path = .error .crashed := by
  unfold crashes
  split
  · simp [*]
  · rename_i other
    simpa using other

section Quiet

variable {data : Json} {path : String} (quiet : crashes data path = false)

include quiet

theorem exists_select?_of_quiet {e : Expr} (parsed : expression? path = .ok e) :
    ∃ nodes, e.select? (documentOf data) = some nodes := by
  refine Option.ne_none_iff_exists'.mp fun crashed => ?_
  simp [crashes, evaluate, select, parsed, crashed] at quiet

/-- Short of a crash, the answer is what the evaluator at hand comes to. -/
theorem answer_of_quiet {evaluator : Evaluator} (completes : evaluator.Completes) :
    (evaluator.answer data path).mapError .refused = evaluate data path := by
  unfold Evaluator.answer evaluate select
  cases parsed : expression? path with
  | error e => rfl
  | ok e =>
    obtain ⟨nodes, selected⟩ := exists_select?_of_quiet quiet parsed
    simp only [completes e _ nodes selected, selected]
    rfl

theorem answer_eq_of_quiet {evaluator other : Evaluator} (completes : evaluator.Completes)
    (also : other.Completes) : evaluator.answer data path = other.answer data path := by
  unfold Evaluator.answer
  cases parsed : expression? path with
  | error e => rfl
  | ok e =>
    obtain ⟨nodes, selected⟩ := exists_select?_of_quiet quiet parsed
    simp only [completes e _ nodes selected, also e _ nodes selected]

end Quiet

theorem distinctKeys_documentOf {data : Json} (distinct : data.distinctKeys = true) :
    (documentOf data).distinctKeys = true := by
  unfold documentOf
  split
  · rename_i text
    cases read : Json.parse? text with
    | none => rfl
    | some v => exact Json.parse?_distinctKeys read
  · exact distinct

theorem distinctKeys_answer [Evaluator] {data v : Json} {path : String}
    (distinct : data.distinctKeys = true) (answered : Evaluator.answer data path = .ok (.found v)) :
    v.distinctKeys = true := by
  unfold Evaluator.answer at answered
  split at answered
  · cases answered
  · rename_i e _
    have each : ∀ w ∈ Evaluator.select e (documentOf data), w.distinctKeys = true :=
      fun w member =>
        (Evaluator.part e (documentOf data) w member).distinctKeys (distinctKeys_documentOf distinct)
    unfold Match.ofSelection at answered
    split at answered <;> cases answered
    · rename_i selected
      exact each v (by rw [selected]; exact List.mem_cons_self)
    · exact (Json.distinctKeys_arr _).mpr each

end BulkActions.Path
