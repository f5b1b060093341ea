import BulkActions.Proofs.Mapping.Entries

/-! What unsafe entries do to the result of a mapping. They write nothing, but the path of one is
evaluated before its key is refused, so that a miss or a failure there is reported all the same. -/

namespace BulkActions.Mapping

/-- No segment of the key is denied. -/
def isSafeKey (key : String) : Bool := !(segments key).any isDenied

theorem checkSegments_of_denied {key : String} (denied : isSafeKey key = false) :
    ∃ segment, checkSegments key = .error ⟨key, segment⟩ := by
  have found : ((segments key).find? isDenied).isSome = true := by
    simpa [isSafeKey] using denied
  obtain ⟨segment, first⟩ := Option.isSome_iff_exists.mp found
  exact ⟨segment, by rw [checkSegments, first]⟩

namespace Entry

def isSafe (e : Entry) : Bool := isSafeKey e.key

variable [Path.Evaluator]

/-- The entry has a value, and no entry before it ends the field. -/
inductive Evaluated (record : SourceRecord) : List Entry → Entry → Prop where
  | here {e : Entry} {rest : List Entry} (valued : e.value.isSome = true) :
      Evaluated record (e :: rest) e
  | later {first e : Entry} {rest : List Entry} (goesOn : ∀ failure, ¬ first.Fails record failure)
      (reached : Evaluated record rest e) : Evaluated record (first :: rest) e

variable {record : SourceRecord} {e : Entry}

theorem missed_of_resolves {v : Json} (resolves : e.Resolves record (some v)) :
    e.missed record = [] := by
  obtain ⟨value, shape, answer⟩ := resolves
  simp only [missed, shape, answer]

/-- An entry that matches, or has no value at all, reports nothing and lets the others go on. -/
theorem silent_of_matched
    (matched : e.value.isSome = true → ∃ v, e.Resolves record (some v)) :
    (∀ failure, ¬ e.Fails record failure) ∧ e.missed record = [] := by
  cases shape : e.value with
  | none => exact ⟨not_fails_of_none shape, by simp only [missed, shape]⟩
  | some value =>
    obtain ⟨v, resolves⟩ := matched (by rw [shape]; rfl)
    exact ⟨not_fails_of_resolves resolves, missed_of_resolves resolves⟩

theorem mem_missed_of_resolves (resolves : e.Resolves record none) :
    ∃ miss ∈ e.missed record, miss.key = some e.key := by
  obtain ⟨value, shape, answer⟩ := resolves
  exact ⟨⟨e.slot, value, some e.key⟩, by simp [missed, shape, answer], rfl⟩

theorem key_of_mem_missed {miss : Miss} (member : miss ∈ e.missed record) :
    miss.key = some e.key := by
  unfold missed at member
  split at member
  · cases member
  · split at member
    · rw [List.mem_singleton.mp member]
    · cases member

theorem key_of_fails {failure : Failure} (fails : e.Fails record failure) :
    failure.key = some e.key := by
  obtain ⟨value, _, failed⟩ := fails
  unfold entryValue resolvePath at failed
  split at failed
  · split at failed
    · cases failed
    · cases failed
      rfl
  · cases failed

theorem edited_of_denied (denied : e.isSafe = false) (object : Assoc String Json) :
    e.edited record object = object := by
  obtain ⟨segment, refused⟩ := checkSegments_of_denied denied
  have nothing : e.edit? record = none := by
    unfold edit?
    rw [refused]
    cases e.value <;> rfl
  rw [edited, nothing]

end Entry

/-- The key is that of a miss or of the failure. -/
def Reported {α : Type} (outcome : Except Failure α) (misses : List Miss) (key : String) : Prop :=
  (∃ miss ∈ misses, miss.key = some key) ∨
    ∃ failure, outcome = .error failure ∧ failure.key = some key

theorem reported_map {α β : Type} (f : α → β) (outcome : Except Failure α) (misses : List Miss)
    (key : String) : Reported (outcome.map f) misses key ↔ Reported outcome misses key := by
  cases outcome with
  | ok _ => simp [Reported, Except.map]
  | error _ => simp [Reported, Except.map]

/-- Equal outcomes and equal misses. The journal may differ. -/
def Building.Agrees (a b : Building) : Prop := a.outcome = b.outcome ∧ a.misses = b.misses

section Entries

open Entry

variable [Path.Evaluator] {record : SourceRecord} {entries : List Entry}
  {object : Assoc String Json}

theorem key_of_miss {miss : Miss} (member : miss ∈ (applyEntries record object entries).misses) :
    ∃ e ∈ entries, miss.key = some e.key := by
  induction entries generalizing object with
  | nil => cases member
  | cons e rest ih =>
    rcases fails_or_goes_on record e with ⟨failure, fails⟩ | ⟨goesOn, _⟩
    · rw [applyEntries_of_fails record object fails] at member
      cases member
    · rw [(applyEntries_of_goes_on record object goesOn rest).2] at member
      rcases List.mem_append.mp member with own | other
      · exact ⟨e, List.mem_cons_self, key_of_mem_missed own⟩
      · obtain ⟨later, present, key⟩ := ih other
        exact ⟨later, List.mem_cons_of_mem e present, key⟩

theorem key_of_failure {failure : Failure}
    (failed : (applyEntries record object entries).outcome = .error failure) :
    ∃ e ∈ entries, failure.key = some e.key := by
  rcases outcome_applyEntries record object entries with ⟨applied, _⟩ | ⟨e, member, _, fails, ends⟩
  · cases applied.symm.trans failed
  · cases ends.symm.trans failed
    exact ⟨e, member, key_of_fails fails⟩

/-- An entry that is evaluated matches, or its key is reported. -/
theorem resolves_or_reported {e : Entry} (reached : Evaluated record entries e)
    (object : Assoc String Json) :
    (∃ v, e.Resolves record (some v)) ∨
      Reported (applyEntries record object entries).outcome
        (applyEntries record object entries).misses e.key := by
  induction reached generalizing object with
  | @here e rest valued =>
    rcases fails_or_goes_on record e with ⟨failure, fails⟩ | ⟨goesOn, resolves⟩
    · rw [applyEntries_of_fails record object fails]
      exact .inr (.inr ⟨failure, rfl, key_of_fails fails⟩)
    · obtain ⟨resolved, known⟩ := resolves valued
      cases resolved with
      | some v => exact .inl ⟨v, known⟩
      | none =>
        obtain ⟨miss, own, key⟩ := mem_missed_of_resolves known
        rw [(applyEntries_of_goes_on record object goesOn rest).2]
        exact .inr (.inl ⟨miss, List.mem_append_left _ own, key⟩)
  | @later first e rest goesOn _ ih =>
    obtain ⟨outcome, misses⟩ := applyEntries_of_goes_on record object goesOn rest
    rw [outcome, misses]
    rcases ih (first.edited record object) with matched | ⟨miss, other, key⟩ | failed
    · exact .inl matched
    · exact .inr (.inl ⟨miss, List.mem_append_right _ other, key⟩)
    · exact .inr (.inr failed)

/-- The safe entries alone build the same, where every unsafe entry that is evaluated matches. -/
theorem applyEntries_filter_safe
    (matched : ∀ e, Evaluated record entries e → e.isSafe = false →
      ∃ v, e.Resolves record (some v)) (object : Assoc String Json) :
    (applyEntries record object (entries.filter isSafe)).Agrees
      (applyEntries record object entries) := by
  induction entries generalizing object with
  | nil => exact ⟨rfl, rfl⟩
  | cons e rest ih =>
    have matched_later (goesOn : ∀ failure, ¬ e.Fails record failure) (other : Entry)
        (reached : Evaluated record rest other) : other.isSafe = false →
          ∃ v, other.Resolves record (some v) :=
      matched other (.later goesOn reached)
    by_cases safe : e.isSafe = true
    · rw [List.filter_cons_of_pos safe]
      rcases fails_or_goes_on record e with ⟨failure, fails⟩ | ⟨goesOn, _⟩
      · rw [applyEntries_of_fails record object fails, applyEntries_of_fails record object fails]
        exact ⟨rfl, rfl⟩
      · obtain ⟨outcome, misses⟩ := ih (matched_later goesOn) (e.edited record object)
        obtain ⟨ends, reports⟩ := applyEntries_of_goes_on record object goesOn rest
        obtain ⟨endsSafe, reportsSafe⟩ :=
          applyEntries_of_goes_on record object goesOn (rest.filter isSafe)
        exact ⟨by rw [ends, endsSafe, outcome], by rw [reports, reportsSafe, misses]⟩
    · have denied : e.isSafe = false := Bool.eq_false_iff.mpr safe
      obtain ⟨goesOn, silent⟩ := silent_of_matched fun valued => matched e (.here valued) denied
      rw [List.filter_cons_of_neg safe]
      obtain ⟨outcome, misses⟩ := ih (matched_later goesOn) object
      obtain ⟨ends, reports⟩ := applyEntries_of_goes_on record object goesOn rest
      rw [edited_of_denied denied] at ends reports
      exact ⟨by rw [ends, outcome], by rw [reports, silent, misses, List.nil_append]⟩

end Entries

/-- The mapping without its unsafe entries. -/
def KeyValueMapping.safe (m : KeyValueMapping) : KeyValueMapping := ⟨m.entries.filter Entry.isSafe⟩

namespace FieldMapping

/-- The entries of a mapping from keys; the other mappings have none. -/
def entries : FieldMapping → List Entry
  | .custom (some (.keyValueMap (some m))) => m.entries
  | _ => []

def safe : FieldMapping → FieldMapping
  | .custom (some (.keyValueMap (some m))) => .custom (some (.keyValueMap (some m.safe)))
  | mapping => mapping

theorem entries_safe (mapping : FieldMapping) :
    mapping.safe.entries = mapping.entries.filter Entry.isSafe := by
  unfold safe
  split
  · rfl
  · rename_i other
    unfold entries
    split
    · exact absurd rfl (other _)
    · rfl

/-- Every unsafe entry that is evaluated has a value to write. -/
def UnsafeMatch [Path.Evaluator] (mapping : FieldMapping) (record : SourceRecord) : Prop :=
  ∀ e, Entry.Evaluated record mapping.entries e → e.isSafe = false →
    ∃ v, e.Resolves record (some v)

end FieldMapping

def DatasetMapping.safe (m : DatasetMapping) : DatasetMapping :=
  ⟨m.input.safe, m.expectedOutput.safe, m.metadata.safe⟩

theorem DatasetMapping.field_safe (m : DatasetMapping) (target : Target) :
    m.safe.field target = (m.field target).safe := by
  cases target <;> rfl

namespace Resolution

def Reports (r : Resolution) (key : String) : Prop := Reported r.outcome r.misses key

/-- Equal outcomes and equal misses. The journal may differ. -/
def Agrees (a b : Resolution) : Prop := a.outcome = b.outcome ∧ a.misses = b.misses

variable {a b : Resolution}

theorem Agrees.reports (agrees : a.Agrees b) {key : String} : a.Reports key ↔ b.Reports key := by
  rw [Reports, Reports, agrees.1, agrees.2]

theorem Agrees.toOption (agrees : a.Agrees b) : a.toOption = b.toOption := by
  rw [Resolution.toOption, Resolution.toOption, agrees.1]

theorem Agrees.errors (agrees : a.Agrees b) (target : Target) :
    a.errors target = b.errors target := by
  rw [Resolution.errors, Resolution.errors, agrees.1, agrees.2]

theorem reports_iff (r : Resolution) (target : Target) (key : String) :
    r.Reports key ↔ ∃ e ∈ r.errors target, e.key = some key := by
  constructor
  · rintro (⟨miss, member, named⟩ | ⟨failure, failed, named⟩)
    · exact ⟨.ofMiss target miss,
        List.mem_append_left _ (List.mem_map.mpr ⟨miss, member, rfl⟩), named⟩
    · refine ⟨.ofFailure target failure, List.mem_append_right _ ?_, named⟩
      rw [failed]
      exact List.mem_singleton.mpr rfl
  · rintro ⟨e, member, named⟩
    rcases List.mem_append.mp member with missed | failed
    · obtain ⟨miss, present, rfl⟩ := List.mem_map.mp missed
      exact .inl ⟨miss, present, named⟩
    · cases outcome : r.outcome with
      | ok resolved =>
        rw [outcome] at failed
        cases failed
      | error failure =>
        rw [outcome] at failed
        rw [List.mem_singleton.mp failed] at named
        exact .inr ⟨failure, outcome, named⟩

theorem not_reports_root [Path.Evaluator] (record : SourceRecord) (m : RootMapping) (key : String) :
    ¬ (applyRoot record m).Reports key := by
  unfold applyRoot resolvePath
  cases Path.Evaluator.answer (record.slot m.slot) m.path with
  | error e => simp [Reports, Reported]
  | ok found => cases found <;> simp [Reports, Reported, Path.Match.toOption, Resolution.value]

end Resolution

/-- The same value for every target, and the same errors. The journal may differ. -/
def MappedFields.Agrees (a b : MappedFields) : Prop :=
  (∀ target, a.value target = b.value target) ∧ a.errors = b.errors

section Fields

variable [Path.Evaluator] {record : SourceRecord} {mapping : FieldMapping} {default : Slot}

theorem applyField_safe (matched : mapping.UnsafeMatch record) (default : Slot) :
    (applyField record mapping.safe default).Agrees (applyField record mapping default) := by
  unfold FieldMapping.safe
  split
  · rename_i m
    have built : (applyEntries record [] (m.entries.filter Entry.isSafe)).Agrees
        (applyEntries record [] m.entries) := applyEntries_filter_safe matched []
    refine ⟨?_, built.2⟩
    simp only [applyField, applyKeyValueMap, KeyValueMapping.safe, built.1]
  · exact ⟨rfl, rfl⟩

/-- A field reports no keys but those of its entries. -/
theorem exists_entry_of_reports {key : String}
    (reported : (applyField record mapping default).Reports key) :
    ∃ e ∈ mapping.entries, key = e.key := by
  unfold applyField at reported
  split at reported
  · simp [Resolution.Reports, Reported, Resolution.value] at reported
  · exact absurd reported (Resolution.not_reports_root record _ key)
  · rename_i m
    rcases (reported_map _ _ _ key).mp reported with
      ⟨miss, member, named⟩ | ⟨failure, failed, named⟩
    · obtain ⟨e, present, same⟩ := key_of_miss member
      exact ⟨e, present, Option.some.inj (named.symm.trans same)⟩
    · obtain ⟨e, present, same⟩ := key_of_failure failed
      exact ⟨e, present, Option.some.inj (named.symm.trans same)⟩
  all_goals simp [Resolution.Reports, Reported, Resolution.value] at reported

theorem isSafeKey_of_reports {key : String}
    (reported : (applyField record mapping.safe default).Reports key) : isSafeKey key = true := by
  obtain ⟨e, member, rfl⟩ := exists_entry_of_reports reported
  rw [FieldMapping.entries_safe] at member
  exact (List.mem_filter.mp member).2

/-- An entry that is evaluated matches, or the field reports its key. -/
theorem resolves_or_reports {e : Entry} (reached : Entry.Evaluated record mapping.entries e)
    (default : Slot) :
    (∃ v, e.Resolves record (some v)) ∨ (applyField record mapping default).Reports e.key := by
  unfold FieldMapping.entries at reached
  split at reached
  · rcases resolves_or_reported reached [] with matched | reported
    · exact .inl matched
    · exact .inr ((reported_map _ _ _ e.key).mpr reported)
  · cases reached

theorem unsafeMatch_of_reports
    (safe : ∀ key, (applyField record mapping default).Reports key → isSafeKey key = true) :
    mapping.UnsafeMatch record := by
  intro e reached denied
  rcases resolves_or_reports reached default with matched | reported
  · exact matched
  · exact absurd (safe e.key reported) (Bool.eq_false_iff.mp denied)

end Fields

section Records

variable [Path.Evaluator] {record : SourceRecord} {mapping : DatasetMapping}

theorem mem_errors_apply {e : MappingError} :
    e ∈ (apply record mapping).errors ↔
      ∃ target, e ∈ (applyTarget record mapping target).errors target := by
  simp only [apply, List.mem_append]
  constructor
  · rintro ((input | expectedOutput) | metadata)
    · exact ⟨.input, input⟩
    · exact ⟨.expectedOutput, expectedOutput⟩
    · exact ⟨.metadata, metadata⟩
  · rintro ⟨target, member⟩
    cases target with
    | input => exact .inl (.inl member)
    | expectedOutput => exact .inl (.inr member)
    | metadata => exact .inr member

theorem apply_safe (matched : ∀ target, (mapping.field target).UnsafeMatch record) :
    (apply record mapping.safe).Agrees (apply record mapping) := by
  have agrees (target : Target) :
      (applyTarget record mapping.safe target).Agrees (applyTarget record mapping target) := by
    rw [applyTarget, DatasetMapping.field_safe]
    exact applyField_safe (matched target) target.defaultSlot
  constructor
  · intro target
    cases target <;> exact (agrees _).toOption
  · simp only [apply, (agrees _).errors]

theorem unsafeMatch_of_apply (agrees : (apply record mapping.safe).Agrees (apply record mapping))
    (target : Target) : (mapping.field target).UnsafeMatch record := by
  apply unsafeMatch_of_reports
  intro key (reported : (applyTarget record mapping target).Reports key)
  obtain ⟨e, member, named⟩ := (Resolution.reports_iff _ target key).mp reported
  have same : e ∈ (apply record mapping.safe).errors := by
    rw [agrees.2]
    exact mem_errors_apply.mpr ⟨target, member⟩
  obtain ⟨place, present⟩ := mem_errors_apply.mp same
  have again : (applyTarget record mapping.safe place).Reports key :=
    (Resolution.reports_iff _ place key).mpr ⟨e, present, named⟩
  rw [applyTarget, DatasetMapping.field_safe] at again
  exact isSafeKey_of_reports again

end Records

/-- Unsafe entries are ignored by a field, or by the three fields of a record, exactly where each of
them that is evaluated has a value to write. -/
theorem unsafe_entries_ignored_iff [Path.Evaluator] (record : SourceRecord) :
    (∀ mapping default,
      (applyField record (FieldMapping.safe mapping) default).Agrees
        (applyField record mapping default) ↔ mapping.UnsafeMatch record) ∧
    ∀ mapping,
      (apply record (DatasetMapping.safe mapping)).Agrees (apply record mapping) ↔
        ∀ target, (mapping.field target).UnsafeMatch record := by
  refine ⟨fun mapping default => ⟨fun agrees => ?_, fun matched => applyField_safe matched default⟩,
    fun mapping => ⟨unsafeMatch_of_apply, apply_safe⟩⟩
  exact unsafeMatch_of_reports fun key reported =>
    isSafeKey_of_reports (agrees.reports.mpr reported)

/-- A path that is no expression and a path without a match, each of an entry with an unsafe key
beside a safe entry. -/
def unsafeMapping : DatasetMapping where
  input := .full
  expectedOutput := .custom (some (.keyValueMap (some
    ⟨[⟨"constructor", .output, some "$["⟩, ⟨"kept", .output, some "text"⟩]⟩)))
  metadata := .custom (some (.keyValueMap (some
    ⟨[⟨"__proto__", .input, some "$.z"⟩, ⟨"safe", .input, some "ok"⟩]⟩)))

def emptyRecord : SourceRecord := ⟨.obj [], .null, .null⟩

/-- The safe entries alone map the record without an error. -/
theorem unsafe_entries_fail_clean_record :
    (apply emptyRecord unsafeMapping.safe).errors = [] ∧
    (apply emptyRecord unsafeMapping.safe).expectedOutput = some (.obj [("kept", .str "text")]) ∧
    (apply emptyRecord unsafeMapping).errors.map (fun e => (e.kind, e.target, e.key)) =
      [(.failure, .expectedOutput, some "constructor"), (.miss, .metadata, some "__proto__")] ∧
    (apply emptyRecord unsafeMapping).expectedOutput = none ∧
    ¬ (apply emptyRecord unsafeMapping.safe).Agrees (apply emptyRecord unsafeMapping) := by
  refine ⟨rfl, rfl, rfl, rfl, ?_⟩
  rintro ⟨values, _⟩
  cases values .expectedOutput

end BulkActions.Mapping
