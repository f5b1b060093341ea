import BulkActions.Proofs.Mapping.Unsafe

/-! Absent values. A field comes to nothing where its own path has no match or where it failed, and
either is reported. The miss of an entry takes its key away, not the value of the field. -/

namespace BulkActions.Mapping

theorem MappedFields.value_apply [Path.Evaluator] (record : SourceRecord) (mapping : DatasetMapping)
    (target : Target) :
    (apply record mapping).value target = (applyTarget record mapping target).toOption := by
  cases target <;> rfl

namespace Resolution

/-- How a field comes out, and whether a miss of the whole field is among its reports. -/
inductive Settled (r : Resolution) : Prop where
  | present {v : Json} (outcome : r.outcome = .ok (some v))
      (keyed : ∀ miss ∈ r.misses, miss.key ≠ none) : Settled r
  | missing {miss : Miss} (outcome : r.outcome = .ok none) (member : miss ∈ r.misses)
      (whole : miss.key = none) : Settled r
  | failed {failure : Failure} (outcome : r.outcome = .error failure) : Settled r

theorem settled_value (v : Json) : Settled (.value v) :=
  .present rfl fun _ member => nomatch member

section Fields

variable [Path.Evaluator] (record : SourceRecord)

theorem settled_root (m : RootMapping) : Settled (applyRoot record m) := by
  unfold applyRoot
  split
  · exact .failed rfl
  · exact settled_value _
  · exact .missing rfl (List.mem_singleton.mpr rfl) rfl

theorem settled_keyValueMap (m : KeyValueMapping) :
    Settled (applyKeyValueMap record m) := by
  cases built : (applyEntries record [] m.entries).outcome with
  | error failure =>
    have outcome : (applyKeyValueMap record m).outcome = .error failure := by
      rw [applyKeyValueMap, built]
      rfl
    exact .failed outcome
  | ok object =>
    have outcome : (applyKeyValueMap record m).outcome = .ok (some (.obj object)) := by
      rw [applyKeyValueMap, built]
      rfl
    refine .present outcome fun miss member => ?_
    obtain ⟨e, _, key⟩ := key_of_miss member
    simp [key]

theorem settled_applyField (mapping : FieldMapping) (default : Slot) :
    Settled (applyField record mapping default) := by
  unfold applyField
  split
  · exact settled_value _
  · exact settled_root record _
  · exact settled_keyValueMap record _
  all_goals exact settled_value _

end Fields

variable {r : Resolution}

theorem mem_errors_iff (target : Target) (e : MappingError) :
    e ∈ r.errors target ↔
      (∃ miss ∈ r.misses, e = .ofMiss target miss) ∨
        ∃ failure, r.outcome = .error failure ∧ e = .ofFailure target failure := by
  rw [errors, List.mem_append, List.mem_map]
  refine or_congr (by simp only [eq_comm]) ?_
  cases r.outcome <;> simp

theorem target_of_mem_errors {target : Target} {e : MappingError} (member : e ∈ r.errors target) :
    e.target = target := by
  rcases (mem_errors_iff target e).mp member with ⟨_, _, rfl⟩ | ⟨_, _, rfl⟩ <;> rfl

/-- The value is absent exactly where the field failed or missed as a whole, as its reports say. -/
theorem Settled.toOption_eq_none_iff (settled : Settled r) (target : Target) :
    r.toOption = none ↔
      ∃ e ∈ r.errors target, e.kind = .failure ∨ e.kind = .miss ∧ e.key = none := by
  cases settled with
  | @present v outcome keyed =>
    constructor
    · intro absent
      simp [toOption, outcome] at absent
    · rintro ⟨e, member, reason⟩
      rcases (mem_errors_iff target e).mp member with ⟨miss, own, rfl⟩ | ⟨_, failed, _⟩
      · rcases reason with failed | ⟨_, whole⟩
        · cases failed
        · exact absurd whole (keyed miss own)
      · cases outcome.symm.trans failed
  | @missing miss outcome member whole =>
    have reported : .ofMiss target miss ∈ r.errors target :=
      (mem_errors_iff target _).mpr (.inl ⟨miss, member, rfl⟩)
    exact ⟨fun _ => ⟨_, reported, .inr ⟨rfl, whole⟩⟩, fun _ => by rw [toOption, outcome]⟩
  | @failed failure outcome =>
    have reported : .ofFailure target failure ∈ r.errors target :=
      (mem_errors_iff target _).mpr (.inr ⟨failure, outcome, rfl⟩)
    exact ⟨fun _ => ⟨_, reported, .inl rfl⟩, fun _ => by rw [toOption, outcome]⟩

end Resolution

section Records

variable [Path.Evaluator] {record : SourceRecord} {mapping : DatasetMapping}

theorem mem_errors_applyTarget_iff {target : Target} {e : MappingError} :
    e ∈ (applyTarget record mapping target).errors target ↔
      e ∈ (apply record mapping).errors ∧ e.target = target := by
  constructor
  · intro member
    exact ⟨mem_errors_apply.mpr ⟨target, member⟩, Resolution.target_of_mem_errors member⟩
  · rintro ⟨member, rfl⟩
    obtain ⟨own, reported⟩ := mem_errors_apply.mp member
    rwa [Resolution.target_of_mem_errors reported]

theorem value_eq_none_iff (target : Target) :
    (apply record mapping).value target = none ↔
      ∃ e ∈ (apply record mapping).errors,
        e.target = target ∧ (e.kind = .failure ∨ e.kind = .miss ∧ e.key = none) := by
  have settled : (applyTarget record mapping target).Settled :=
    Resolution.settled_applyField record (mapping.field target) target.defaultSlot
  rw [MappedFields.value_apply, settled.toOption_eq_none_iff target]
  simp only [mem_errors_applyTarget_iff, and_assoc]

theorem exists_value_of_no_errors (clean : (apply record mapping).errors = []) (target : Target) :
    ∃ v, (apply record mapping).value target = some v := by
  refine Option.ne_none_iff_exists'.mp fun absent => ?_
  obtain ⟨e, member, _⟩ := (value_eq_none_iff target).mp absent
  rw [clean] at member
  cases member

end Records

end BulkActions.Mapping
