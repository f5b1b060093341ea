import BulkActions.Proofs.Mapping.Absent
import BulkActions.Proofs.Run.Submissions

/-! The items of a chunked run are filled. A record is submitted only if its mapping reports nothing,
and an absent value is always reported, so that no field of a submitted item is absent. -/

namespace BulkActions.Run

open Dataset Job

variable {κ : Type}

/-- Every field has a value, which may be null. -/
def IsFilled (i : Item) : Prop :=
  i.input.isSome = true ∧ i.expectedOutput.isSome = true ∧ i.metadata.isSome = true

instance (i : Item) : Decidable (IsFilled i) := inferInstanceAs (Decidable (_ ∧ _ ∧ _))

namespace Chunked

section Runs

variable [Path.Evaluator]

theorem isFilled_itemFor {r : Chunked} {o : Observation} (maps : r.maps o = true) :
    IsFilled (r.itemFor o) := by
  have clean : (Mapping.apply o.record r.params.mapping).errors = [] := List.isEmpty_iff.mp maps
  have present (target : Mapping.Target) :
      ((Mapping.apply o.record r.params.mapping).value target).isSome = true :=
    Option.isSome_iff_exists.mpr (Mapping.exists_value_of_no_errors clean target)
  exact ⟨present .input, present .expectedOutput, present .metadata⟩

theorem isFilled_of_mem_callsFor {r : Chunked} {records : List Observation} {call : SinkCall}
    (member : call ∈ r.callsFor records) {i : Item} (inside : i ∈ call.items) : IsFilled i := by
  have listed : i ∈ (r.callsFor records).flatMap SinkCall.items :=
    List.mem_flatMap.mpr ⟨call, member, inside⟩
  rw [items_callsFor] at listed
  obtain ⟨o, kept, rfl⟩ := List.mem_map.mp listed
  exact isFilled_itemFor (List.mem_filter.mp kept).2

/-- What a run hands to its sink comes behind what was handed over before, and is filled. -/
theorem submissions_filled (r : Chunked) (records : List Observation) (s : State κ) :
    ∃ calls, submissions (r.run records s).1.events = submissions s.events ++ calls ∧
      ∀ call ∈ calls, ∀ i ∈ call.items, IsFilled i := by
  rcases submissions_run r records s with ⟨_, _, submitted⟩ | ⟨_, _, _, unchanged⟩
  · exact ⟨r.callsFor records, submitted, fun _ member _ inside =>
      isFilled_of_mem_callsFor member inside⟩
  · exact ⟨[], by simp [unchanged], fun _ member => nomatch member⟩

/-- The value of a target is absent exactly where a failure of the target is reported, or a miss of
the target as a whole. A record without errors has all its values, and so has every item that a run
hands to its sink. -/
theorem absent_values_are_reported (record : Mapping.SourceRecord)
    (mapping : Mapping.DatasetMapping) (r : Chunked) (records : List Observation) (s : State κ) :
    (∀ target, (Mapping.apply record mapping).value target = none ↔
      ∃ e ∈ (Mapping.apply record mapping).errors,
        e.target = target ∧ (e.kind = .failure ∨ e.kind = .miss ∧ e.key = none)) ∧
    ((Mapping.apply record mapping).errors = [] →
      ∀ target, ∃ v, (Mapping.apply record mapping).value target = some v) ∧
    ∃ calls, submissions (r.run records s).1.events = submissions s.events ++ calls ∧
      ∀ call ∈ calls, ∀ i ∈ call.items, IsFilled i :=
  ⟨Mapping.value_eq_none_iff, Mapping.exists_value_of_no_errors, r.submissions_filled records s⟩

end Runs

/-- The item of the third of the sample records, whose answer is null. -/
def nullAnswer : Item :=
  ⟨"d", some .null, some (.obj [("answer", .null)]), some .null, "t3", "o3"⟩

theorem absent_values_are_reported_null_answer :
    (Mapping.apply ⟨.null, .obj [("answer", .null)], .null⟩ sampleRun.params.mapping).errors = [] ∧
    (∀ target, ∃ v, (Mapping.apply ⟨.null, .obj [("answer", .null)], .null⟩
      sampleRun.params.mapping).value target = some v) ∧
    ∃ call ∈ submissions (sampleRun.run sampleRecords (.ofStore sampleStore : State Unit)).1.events,
      nullAnswer ∈ call.items ∧ IsFilled nullAnswer := by
  obtain ⟨_, present, calls, submitted, filled⟩ := absent_values_are_reported
    ⟨.null, .obj [("answer", .null)], .null⟩ sampleRun.params.mapping sampleRun sampleRecords
    (.ofStore sampleStore : State Unit)
  have handed : (⟨"p", "d", [nullAnswer]⟩ : SinkCall) ∈
      submissions (sampleRun.run sampleRecords (.ofStore sampleStore : State Unit)).1.events := by
    decide
  have member : (⟨"p", "d", [nullAnswer]⟩ : SinkCall) ∈ calls := by
    rwa [submitted] at handed
  exact ⟨rfl, present rfl, _, handed, List.mem_singleton.mpr rfl,
    filled _ member nullAnswer (List.mem_singleton.mpr rfl)⟩

end Chunked

end BulkActions.Run
