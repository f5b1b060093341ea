import BulkActions.Proofs.Mapping.Fields

/-! Mapping up to a crash. A record asks its evaluator for the paths it tries and for nothing else, so
that short of a crash it is mapped alike by whatever completes the evaluator at hand. -/

namespace BulkActions.Mapping

variable {record : SourceRecord}

theorem Probe.isExpression_of_crashes {p : Probe} (crashes : p.crashes record = true) :
    p.isExpression = true := by
  unfold Probe.crashes Path.crashes Path.evaluate Path.select at crashes
  unfold isExpression
  cases parsed : Path.expression? p.path with
  | error e => simp [parsed] at crashes
  | ok e => rfl

theorem FieldMapping.quiet_of_mem_asked {mapping : FieldMapping}
    (quiet : mapping.crashes record = false) : ∀ p ∈ mapping.asked, p.crashes record = false := by
  intro p member
  simpa using List.any_eq_false.mp quiet p member

namespace DatasetMapping

variable {mapping : DatasetMapping}

theorem crashes_iff_field :
    mapping.crashes record = true ↔ ∃ target, (mapping.field target).crashes record = true := by
  simp only [crashes, Bool.or_eq_true]
  constructor
  · rintro ((input | expectedOutput) | metadata)
    · exact ⟨.input, input⟩
    · exact ⟨.expectedOutput, expectedOutput⟩
    · exact ⟨.metadata, metadata⟩
  · rintro ⟨target, crashes⟩
    cases target with
    | input => exact .inl (.inl crashes)
    | expectedOutput => exact .inl (.inr crashes)
    | metadata => exact .inr crashes

theorem quiet_field (quiet : mapping.crashes record = false) (target : Target) :
    (mapping.field target).crashes record = false :=
  Bool.eq_false_iff.mpr fun crashes =>
    Bool.eq_false_iff.mp quiet (crashes_iff_field.mpr ⟨target, crashes⟩)

end DatasetMapping

theorem Entry.exists_fails_of_malformed [Path.Evaluator] (record : SourceRecord) {e : Entry}
    {p : Probe} (probe : e.probe? = some p) (malformed : p.isExpression = false) :
    ∃ failure, e.Fails record failure := by
  obtain ⟨failure, failed⟩ :=
    Option.isSome_iff_exists.mp ((Probe.isSome_failure?_iff record).mpr malformed)
  exact ⟨failure, fails_of_probe probe failed⟩

section Agreed

variable {evaluator other : Path.Evaluator}

/-- The two answer the path alike. -/
def Probe.Agreed (evaluator other : Path.Evaluator) (record : SourceRecord) (p : Probe) : Prop :=
  evaluator.answer (record.slot p.slot) p.path = other.answer (record.slot p.slot) p.path

theorem Probe.agreed_of_malformed {p : Probe} (malformed : p.isExpression = false) :
    p.Agreed evaluator other record := by
  unfold Agreed Path.Evaluator.answer
  cases parsed : Path.expression? p.path with
  | error e => rfl
  | ok e => simp [isExpression, parsed, Except.isOk, Except.toBool] at malformed

theorem resolvePath_congr {slot : Slot} {path : String} {key : Option String}
    (agreed : (Probe.mk slot path key).Agreed evaluator other record) :
    @resolvePath evaluator record slot path key = @resolvePath other record slot path key := by
  have same : evaluator.answer (record.slot slot) path = other.answer (record.slot slot) path :=
    agreed
  simp only [resolvePath, same]

theorem entryValue_congr {e : Entry}
    (agreed : ∀ p, e.probe? = some p → p.Agreed evaluator other record) {value : String}
    (shape : e.value = some value) :
    @entryValue evaluator record e value = @entryValue other record e value := by
  unfold entryValue
  split
  · rename_i path
    have named : e.probe? = some ⟨e.slot, value, some e.key⟩ := by
      simp [Entry.probe?, shape, path]
    exact resolvePath_congr (agreed _ named)
  · rfl

theorem applyEntries_cons_congr {e : Entry} {rest : List Entry}
    (agreed : ∀ p, e.probe? = some p → p.Agreed evaluator other record)
    (later : ∀ object, @applyEntries evaluator record object rest =
      @applyEntries other record object rest) (object : Assoc String Json) :
    @applyEntries evaluator record object (e :: rest) =
      @applyEntries other record object (e :: rest) := by
  cases shape : e.value with
  | none => simp only [applyEntries, shape, later]
  | some value => simp only [applyEntries, shape, entryValue_congr agreed shape, later]

/-- Entries come to the same where the paths agree that they try. -/
theorem applyEntries_congr {entries : List Entry}
    (agreed : ∀ p ∈ (entries.filterMap Entry.probe?).takeWhile Probe.isExpression,
      p.Agreed evaluator other record) (object : Assoc String Json) :
    @applyEntries evaluator record object entries = @applyEntries other record object entries := by
  induction entries generalizing object with
  | nil => rfl
  | cons e rest ih =>
    cases probe : e.probe? with
    | none =>
      rw [List.filterMap_cons_none probe] at agreed
      refine applyEntries_cons_congr (fun p named => ?_) (ih agreed) object
      cases probe.symm.trans named
    | some p =>
      rw [List.filterMap_cons_some probe] at agreed
      have own (here : p.Agreed evaluator other record) (q : Probe) (named : e.probe? = some q) :
          q.Agreed evaluator other record := Option.some.inj (probe.symm.trans named) ▸ here
      cases expression : p.isExpression with
      | true =>
        rw [List.takeWhile_cons_of_pos expression, List.forall_mem_cons] at agreed
        exact applyEntries_cons_congr (own agreed.1) (ih agreed.2) object
      | false =>
        -- The entry fails in both, so that those behind it are not tried.
        obtain ⟨failure, value, shape, failed⟩ :=
          @Entry.exists_fails_of_malformed evaluator record e p probe expression
        have same := entryValue_congr (own (Probe.agreed_of_malformed expression)) shape
        rw [@applyEntries_of_fails evaluator record object e failure ⟨value, shape, failed⟩,
          @applyEntries_of_fails other record object e failure ⟨value, shape, same ▸ failed⟩]

/-- A field comes to the same where the paths agree that it tries. -/
theorem applyField_congr (default : Slot) : (mapping : FieldMapping) →
    (∀ p ∈ mapping.asked, p.Agreed evaluator other record) →
    @applyField evaluator record mapping default = @applyField other record mapping default
  | .custom (some (.root (some m))), agreed => by
    have own : (Probe.mk m.slot m.path none).Agreed evaluator other record := by
      cases expression : (Probe.mk m.slot m.path none).isExpression with
      | true => exact agreed _ (by simp [FieldMapping.asked, FieldMapping.probes, expression])
      | false => exact Probe.agreed_of_malformed expression
    simp only [applyField, applyRoot, resolvePath_congr own]
  | .custom (some (.keyValueMap (some m))), agreed => by
    simp only [applyField, applyKeyValueMap, applyEntries_congr agreed]
  | .full, _ | .null, _ | .unknown, _ => rfl
  | .custom none, _ | .custom (some .unknown), _ => rfl
  | .custom (some (.root none)), _ | .custom (some (.keyValueMap none)), _ => rfl

theorem FieldMapping.agreed_of_quiet (completes : evaluator.Completes) (also : other.Completes)
    {mapping : FieldMapping} (quiet : mapping.crashes record = false) :
    ∀ p ∈ mapping.asked, p.Agreed evaluator other record := by
  intro p member
  exact Path.answer_eq_of_quiet (quiet_of_mem_asked quiet p member) completes also

/-- Short of a crash a record is mapped alike by all that complete the evaluator at hand. -/
theorem apply_eq_of_quiet (completes : evaluator.Completes) (also : other.Completes)
    {mapping : DatasetMapping} (quiet : mapping.crashes record = false) :
    @apply evaluator record mapping = @apply other record mapping := by
  have fields (target : Target) :
      @applyTarget evaluator record mapping target = @applyTarget other record mapping target :=
    applyField_congr target.defaultSlot _
      (FieldMapping.agreed_of_quiet completes also (DatasetMapping.quiet_field quiet target))
  simp only [apply, fields]

theorem attempt?_eq_of_completes (completes : evaluator.Completes) (also : other.Completes)
    (mapping : DatasetMapping) :
    @attempt? evaluator record mapping = @attempt? other record mapping := by
  unfold attempt?
  split
  · rfl
  · rename_i quiet
    rw [apply_eq_of_quiet completes also (Bool.eq_false_iff.mpr quiet)]

end Agreed

theorem FieldMapping.crashes_iff {mapping : FieldMapping} :
    mapping.crashes record = true ↔
      ∃ p ∈ mapping.asked, Path.evaluate (record.slot p.slot) p.path = .error .crashed := by
  simp only [crashes, List.any_eq_true, Probe.crashes, Path.crashes_iff]

/-- A record comes to nothing exactly where the evaluator crashes on a path that one of its fields
tries. -/
theorem attempt?_eq_none_iff [Path.Evaluator] {mapping : DatasetMapping} :
    attempt? record mapping = none ↔
      ∃ target, ∃ p ∈ (mapping.field target).asked,
        Path.evaluate (record.slot p.slot) p.path = .error .crashed := by
  simp only [← FieldMapping.crashes_iff]
  rw [← DatasetMapping.crashes_iff_field, attempt?]
  split <;> simp [*]

/-- A slice of an array in steps of zero. -/
example : attempt? ⟨.arr [.int 1], .null, .null⟩
    ⟨.custom (some (.root (some ⟨.input, "$[::0]"⟩))), .full, .full⟩ = none := rfl

section Quiet

variable [Path.Evaluator]

/-- Where no path crashes that entries try, those in front of a crash come to the same. -/
theorem applyEntries_untilCrash {entries : List Entry}
    (quiet : ∀ p ∈ (entries.filterMap Entry.probe?).takeWhile Probe.isExpression,
      p.crashes record = false) (object : Assoc String Json) :
    applyEntries record object (entries.takeWhile fun e => !e.crashes record) =
      applyEntries record object entries := by
  induction entries generalizing object with
  | nil => rfl
  | cons e rest ih =>
    cases probe : e.probe? with
    | none =>
      have calm : e.crashes record = false := by rw [Entry.crashes, probe]; rfl
      rw [List.filterMap_cons_none probe] at quiet
      rw [List.takeWhile_cons_of_pos (by rw [calm]; rfl)]
      simp only [applyEntries, ih quiet]
    | some p =>
      rw [List.filterMap_cons_some probe] at quiet
      cases expression : p.isExpression with
      | true =>
        rw [List.takeWhile_cons_of_pos expression, List.forall_mem_cons] at quiet
        rw [List.takeWhile_cons_of_pos (by simp [Entry.crashes, probe, quiet.1])]
        simp only [applyEntries, ih quiet.2]
      | false =>
        have calm : p.crashes record = false := Bool.eq_false_iff.mpr fun crashes => by
          cases expression.symm.trans (Probe.isExpression_of_crashes crashes)
        obtain ⟨failure, fails⟩ := Entry.exists_fails_of_malformed record probe expression
        rw [List.takeWhile_cons_of_pos (by simp [Entry.crashes, probe, calm]),
          applyEntries_of_fails record object fails, applyEntries_of_fails record object fails]

theorem applyField_untilCrash {mapping : FieldMapping} (quiet : mapping.crashes record = false)
    (default : Slot) :
    applyField record (mapping.untilCrash record) default = applyField record mapping default := by
  unfold FieldMapping.untilCrash
  split
  · rename_i m
    have calm := FieldMapping.quiet_of_mem_asked quiet
    simp only [applyField, applyKeyValueMap, applyEntries_untilCrash calm]
  · rw [if_neg (Bool.eq_false_iff.mp quiet)]

/-- Short of a crash the whole mapping is got through. -/
theorem apply_untilCrash {mapping : DatasetMapping} (quiet : mapping.crashes record = false) :
    apply record (mapping.untilCrash record) = apply record mapping := by
  have input : mapping.input.crashes record = false := DatasetMapping.quiet_field quiet .input
  have expectedOutput : mapping.expectedOutput.crashes record = false :=
    DatasetMapping.quiet_field quiet .expectedOutput
  have metadata : mapping.metadata.crashes record = false := DatasetMapping.quiet_field quiet .metadata
  simp [apply, applyTarget, DatasetMapping.field, DatasetMapping.untilCrash, input, expectedOutput,
    applyField_untilCrash, metadata]

end Quiet

theorem FieldMapping.crashes_untilCrash (mapping : FieldMapping) (record : SourceRecord) :
    (mapping.untilCrash record).crashes record = false := by
  unfold untilCrash
  split
  · rename_i m
    refine List.any_eq_false.mpr fun p tried => ?_
    have named : p ∈ (m.entries.takeWhile fun e => !e.crashes record).filterMap Entry.probe? :=
      List.takeWhile_sublist _ |>.subset tried
    obtain ⟨e, kept, probe⟩ := List.mem_filterMap.mp named
    have calm := List.all_eq_true.mp List.all_takeWhile e kept
    simpa [Entry.crashes, probe] using calm
  · split
    · rfl
    · rename_i quiet
      exact Bool.eq_false_iff.mpr quiet

/-- What is got through does not crash. -/
theorem DatasetMapping.crashes_untilCrash (mapping : DatasetMapping) (record : SourceRecord) :
    (mapping.untilCrash record).crashes record = false := by
  have null : FieldMapping.null.crashes record = false := rfl
  simp only [crashes, untilCrash, Bool.or_eq_false_iff]
  refine ⟨⟨mapping.input.crashes_untilCrash record, ?_⟩, ?_⟩
  · split
    · exact null
    · exact mapping.expectedOutput.crashes_untilCrash record
  · split
    · exact null
    · exact mapping.metadata.crashes_untilCrash record

end BulkActions.Mapping
