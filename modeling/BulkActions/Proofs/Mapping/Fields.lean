import BulkActions.Mapping.Crash
import BulkActions.Proofs.Mapping.Absent

/-! The reports of a record, field by field. A field depends on its own mapping alone, and its reports
are read off the paths that mapping names: a miss for each path without a match, up to the first path
that is no expression, and then the failure of that path. -/

namespace BulkActions.Mapping

namespace Probe

variable [Path.Evaluator]

/-- The report of a path without a match. -/
def miss? (record : SourceRecord) (p : Probe) : Option Miss :=
  match Path.Evaluator.answer (record.slot p.slot) p.path with
  | .ok .missing => some ⟨p.slot, p.path, p.key⟩
  | _ => none

/-- The failure of a path that is no expression. -/
def failure? (record : SourceRecord) (p : Probe) : Option Failure :=
  match Path.Evaluator.answer (record.slot p.slot) p.path with
  | .ok _ => none
  | .error e => some ⟨p.slot, p.path, p.key, e⟩

/-- The misses among the paths in front of the first that fails. -/
def misses (record : SourceRecord) (probes : List Probe) : List Miss :=
  (probes.takeWhile fun p => (p.failure? record).isNone).filterMap (miss? record)

/-- The failure of the first path that fails. -/
def firstFailure? (record : SourceRecord) (probes : List Probe) : Option Failure :=
  probes.findSome? (failure? record)

/-- The misses up to the first path that fails, then its failure. -/
def errors (record : SourceRecord) (target : Target) (probes : List Probe) : List MappingError :=
  (misses record probes).map (.ofMiss target) ++
    ((firstFailure? record probes).map (.ofFailure target)).toList

variable {record : SourceRecord} {p : Probe} {failure : Failure}

theorem misses_cons_of_fails (fails : p.failure? record = some failure) (rest : List Probe) :
    misses record (p :: rest) = [] := by
  simp [misses, fails]

theorem misses_cons_of_goes_on (goesOn : p.failure? record = none) (rest : List Probe) :
    misses record (p :: rest) = (p.miss? record).toList ++ misses record rest := by
  rw [misses, List.takeWhile_cons_of_pos (by rw [goesOn]; rfl), List.filterMap_cons]
  cases p.miss? record <;> rfl

theorem firstFailure?_cons_of_fails (fails : p.failure? record = some failure)
    (rest : List Probe) : firstFailure? record (p :: rest) = some failure := by
  rw [firstFailure?, List.findSome?_cons, fails]

theorem firstFailure?_cons_of_goes_on (goesOn : p.failure? record = none) (rest : List Probe) :
    firstFailure? record (p :: rest) = firstFailure? record rest := by
  rw [firstFailure?, List.findSome?_cons, goesOn, ← firstFailure?]

/-- The paths that fail on a record are those that are no expression. -/
theorem isSome_failure?_iff (record : SourceRecord) :
    (p.failure? record).isSome = true ↔ p.isExpression = false := by
  unfold failure? Path.Evaluator.answer isExpression
  cases parsed : Path.expression? p.path <;> simp [Except.isOk, Except.toBool]

end Probe

namespace Entry

variable {record : SourceRecord} {e : Entry}

theorem probe?_eq_some_iff {p : Probe} :
    e.probe? = some p ↔
      ∃ value, e.value = some value ∧ isPath value = true ∧ ⟨e.slot, value, some e.key⟩ = p := by
  unfold probe?
  cases e.value <;> simp

/-- An entry without a path is silent and does not fail. -/
theorem silent_of_no_probe [Path.Evaluator] (record : SourceRecord) (none : e.probe? = none) :
    (∀ failure, ¬ e.Fails record failure) ∧ e.missed record = [] := by
  refine silent_of_matched fun valued => ?_
  obtain ⟨value, shape⟩ := Option.isSome_iff_exists.mp valued
  have literal : isPath value = false := by simpa [probe?, shape] using none
  exact ⟨.str value, value, shape, by simp [entryValue, literal]⟩

theorem fails_of_probe [Path.Evaluator] {p : Probe} {failure : Failure} (probe : e.probe? = some p)
    (fails : p.failure? record = some failure) : e.Fails record failure := by
  obtain ⟨value, shape, path, rfl⟩ := probe?_eq_some_iff.mp probe
  refine ⟨value, shape, ?_⟩
  unfold Probe.failure? at fails
  rw [entryValue, if_pos path, resolvePath]
  split at fails
  · cases fails
  · rename_i answer
    rw [answer, ← Option.some.inj fails]

/-- An entry whose path is an expression does not fail, and reports what its path does. -/
theorem goes_on_of_probe [Path.Evaluator] {p : Probe} (probe : e.probe? = some p)
    (goesOn : p.failure? record = none) :
    (∀ failure, ¬ e.Fails record failure) ∧ e.missed record = (p.miss? record).toList := by
  obtain ⟨value, shape, path, rfl⟩ := probe?_eq_some_iff.mp probe
  unfold Probe.failure? at goesOn
  split at goesOn
  · rename_i found answer
    have resolved : entryValue record e value = .ok found.toOption := by
      rw [entryValue, if_pos path, resolvePath, answer]
    refine ⟨not_fails_of_resolves ⟨value, shape, resolved⟩, ?_⟩
    cases found <;> simp [missed, shape, resolved, Probe.miss?, answer, Path.Match.toOption]
  · cases goesOn

end Entry

/-- The failure that ended a field, if one did. -/
def failureOf {α : Type} : Except Failure α → Option Failure
  | .ok _ => none
  | .error failure => some failure

theorem failureOf_map {α β : Type} (f : α → β) (outcome : Except Failure α) :
    failureOf (outcome.map f) = failureOf outcome := by
  cases outcome <;> rfl

theorem Resolution.errors_eq (r : Resolution) (target : Target) :
    r.errors target = r.misses.map (.ofMiss target) ++
      ((failureOf r.outcome).map (.ofFailure target)).toList := by
  unfold Resolution.errors
  cases r.outcome <;> rfl

section Entries

variable [Path.Evaluator] (record : SourceRecord)

/-- What entries report is what their paths report. -/
theorem applyEntries_probes (object : Assoc String Json) (entries : List Entry) :
    (applyEntries record object entries).misses =
        Probe.misses record (entries.filterMap Entry.probe?) ∧
      failureOf (applyEntries record object entries).outcome =
        Probe.firstFailure? record (entries.filterMap Entry.probe?) := by
  induction entries generalizing object with
  | nil => exact ⟨rfl, rfl⟩
  | cons e rest ih =>
    cases probe : e.probe? with
    | none =>
      obtain ⟨goesOn, silent⟩ := Entry.silent_of_no_probe record probe
      obtain ⟨outcome, misses⟩ := applyEntries_of_goes_on record object goesOn rest
      rw [List.filterMap_cons_none probe, outcome, misses, silent, List.nil_append]
      exact ih _
    | some p =>
      rw [List.filterMap_cons_some probe]
      cases answer : p.failure? record with
      | some failure =>
        have fails := Entry.fails_of_probe probe answer
        rw [applyEntries_of_fails record object fails, Probe.misses_cons_of_fails answer,
          Probe.firstFailure?_cons_of_fails answer]
        exact ⟨rfl, rfl⟩
      | none =>
        obtain ⟨goesOn, missed⟩ := Entry.goes_on_of_probe probe answer
        obtain ⟨outcome, misses⟩ := applyEntries_of_goes_on record object goesOn rest
        obtain ⟨later, ends⟩ := ih (e.edited record object)
        rw [outcome, misses, missed, later, ends, Probe.misses_cons_of_goes_on answer,
          Probe.firstFailure?_cons_of_goes_on answer]
        exact ⟨rfl, rfl⟩

/-- The entries behind one that fails leave no trace: neither in the object nor among the reports. -/
theorem applyEntries_append_of_fails {e : Entry} {failure : Failure}
    (fails : e.Fails record failure) (object : Assoc String Json) (before later : List Entry) :
    applyEntries record object (before ++ e :: later) =
      applyEntries record object (before ++ [e]) := by
  induction before generalizing object with
  | nil =>
    rw [List.nil_append, List.nil_append, applyEntries_of_fails record object fails,
      applyEntries_of_fails record object fails]
  | cons first rest ih =>
    simp only [List.cons_append, applyEntries, ih]

end Entries

/-- The mapping that builds an object of these entries. -/
def FieldMapping.keyed (entries : List Entry) : FieldMapping :=
  .custom (some (.keyValueMap (some ⟨entries⟩)))

section Fields

variable [Path.Evaluator] (record : SourceRecord)

theorem applyRoot_probes (m : RootMapping) :
    (applyRoot record m).misses = Probe.misses record [⟨m.slot, m.path, none⟩] ∧
      failureOf (applyRoot record m).outcome =
        Probe.firstFailure? record [⟨m.slot, m.path, none⟩] := by
  unfold applyRoot resolvePath
  cases answer : Path.Evaluator.answer (record.slot m.slot) m.path with
  | error e => simp [Probe.misses, Probe.firstFailure?, Probe.failure?, answer, failureOf]
  | ok found =>
    cases found <;>
      simp [Probe.misses, Probe.firstFailure?, Probe.failure?, Probe.miss?, answer, failureOf,
        Path.Match.toOption, Resolution.value]

/-- What a field reports is what its paths report. -/
theorem applyField_probes (default : Slot) : (mapping : FieldMapping) →
    (applyField record mapping default).misses = Probe.misses record mapping.probes ∧
      failureOf (applyField record mapping default).outcome =
        Probe.firstFailure? record mapping.probes
  | .custom (some (.root (some m))) => applyRoot_probes record m
  | .custom (some (.keyValueMap (some m))) => by
    obtain ⟨misses, failure⟩ := applyEntries_probes record [] m.entries
    exact ⟨misses, (failureOf_map _ _).trans failure⟩
  | .full | .null | .unknown => ⟨rfl, rfl⟩
  | .custom none | .custom (some .unknown) => ⟨rfl, rfl⟩
  | .custom (some (.root none)) | .custom (some (.keyValueMap none)) => ⟨rfl, rfl⟩

theorem errors_applyTarget (mapping : DatasetMapping) (target : Target) :
    (applyTarget record mapping target).errors target =
      Probe.errors record target (mapping.field target).probes := by
  obtain ⟨misses, failure⟩ := applyField_probes record target.defaultSlot (mapping.field target)
  rw [Resolution.errors_eq, applyTarget, misses, failure, Probe.errors]

theorem errors_apply (mapping : DatasetMapping) :
    (apply record mapping).errors =
      [Target.input, .expectedOutput, .metadata].flatMap fun target =>
        (applyTarget record mapping target).errors target := by
  simp [apply]

/-- The reports of a record about one target are those of its field. -/
theorem filter_errors_apply (mapping : DatasetMapping) (target : Target) :
    (apply record mapping).errors.filter (·.target = target) =
      (applyTarget record mapping target).errors target := by
  have own (other : Target) :
      ((applyTarget record mapping other).errors other).filter (·.target = target) =
        if other = target then (applyTarget record mapping other).errors other else [] := by
    split
    · rename_i same
      refine List.filter_eq_self.mpr fun e member => ?_
      simpa [same] using Resolution.target_of_mem_errors member
    · rename_i differs
      refine List.filter_eq_nil_iff.mpr fun e member => ?_
      simpa [Resolution.target_of_mem_errors member] using differs
  rw [errors_apply, List.filter_flatMap]
  cases target <;> simp [own]

end Fields

/-- Each field is mapped on its own. Mappings that agree on a target give it the same value and the
same reports, whatever they hold for the others. The reports of a record are those of its fields in
order, and the reports of a field are the misses among its paths up to the first that fails, then the
failure of that one; the paths that fail are those that are no expression. What entries come behind an
entry that fails makes no difference. -/
theorem fields_map_independently [Path.Evaluator] (record : SourceRecord) :
    (∀ (m n : DatasetMapping) (target : Target), m.field target = n.field target →
      (apply record m).value target = (apply record n).value target ∧
      (apply record m).errors.filter (·.target = target) =
        (apply record n).errors.filter (·.target = target)) ∧
    (∀ m : DatasetMapping, (apply record m).errors =
      [Target.input, .expectedOutput, .metadata].flatMap fun target =>
        Probe.errors record target (m.field target).probes) ∧
    (∀ p : Probe, (p.failure? record).isSome = true ↔ (Path.expression? p.path).isOk = false) ∧
    ∀ (e : Entry) (p : Probe) (before later others : List Entry) (default : Slot),
      e.probe? = some p → (p.failure? record).isSome = true →
      applyField record (.keyed (before ++ e :: later)) default =
        applyField record (.keyed (before ++ e :: others)) default := by
  refine ⟨fun m n target same => ⟨?_, ?_⟩, fun m => ?_,
    fun _ => Probe.isSome_failure?_iff record, ?_⟩
  · rw [MappedFields.value_apply, MappedFields.value_apply, applyTarget, applyTarget, same]
  · rw [filter_errors_apply, filter_errors_apply, errors_applyTarget, errors_applyTarget, same]
  · simp only [errors_apply, errors_applyTarget]
  · intro e p before later others default probe failed
    obtain ⟨failure, answer⟩ := Option.isSome_iff_exists.mp failed
    have fails := Entry.fails_of_probe probe answer
    simp only [FieldMapping.keyed, applyField, applyKeyValueMap]
    rw [applyEntries_append_of_fails record fails [] before later,
      applyEntries_append_of_fails record fails [] before others]

/-- A path without a match and a path that is no expression, before one more without a match. -/
def endedEntries : List Entry :=
  [⟨"lost", .input, some "$.z"⟩, ⟨"plain", .output, some "text"⟩, ⟨"broken", .metadata, some "$["⟩,
    ⟨"unread", .input, some "$.y"⟩]

/-- The same entries between fields that fail, and between fields that do not. -/
def troubled : DatasetMapping where
  input := .custom (some (.root (some ⟨.input, "$.a["⟩)))
  expectedOutput := .keyed endedEntries
  metadata := .custom (some (.root (some ⟨.input, "$.none"⟩)))

def untroubled : DatasetMapping where
  input := .full
  expectedOutput := .keyed endedEntries
  metadata := .keyed [⟨"id", .input, some "$.a.id"⟩]

theorem fields_map_independently_troubled :
    troubled.field .expectedOutput = untroubled.field .expectedOutput ∧
    (apply sampleRecord troubled).value .expectedOutput =
      (apply sampleRecord untroubled).value .expectedOutput ∧
    (apply sampleRecord troubled).errors.filter (·.target = .expectedOutput) =
      (apply sampleRecord untroubled).errors.filter (·.target = .expectedOutput) ∧
    (apply sampleRecord troubled).errors.map (fun e => (e.kind, e.target, e.key)) =
      [(.failure, .input, none), (.miss, .expectedOutput, some "lost"),
        (.failure, .expectedOutput, some "broken"), (.miss, .metadata, none)] ∧
    (Path.expression? "$[").isOk = false ∧
    applyField sampleRecord (.keyed endedEntries) .output =
      applyField sampleRecord (.keyed (endedEntries.take 3)) .output := by
  obtain ⟨independent, reported, fails, ends⟩ := fields_map_independently sampleRecord
  have same : troubled.field .expectedOutput = untroubled.field .expectedOutput := rfl
  have malformed : (Path.expression? "$[").isOk = false := rfl
  obtain ⟨value, errors⟩ := independent troubled untroubled .expectedOutput same
  refine ⟨same, value, errors, ?_, malformed, ?_⟩
  · rw [reported]
    rfl
  · exact ends ⟨"broken", .metadata, some "$["⟩ ⟨.metadata, "$[", some "broken"⟩
      (endedEntries.take 2) (endedEntries.drop 3) [] .output rfl ((fails _).mpr malformed)

end BulkActions.Mapping
