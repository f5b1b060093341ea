import BulkActions.Mapping.Apply
import BulkActions.Proofs.Mapping.Edit
import BulkActions.Proofs.Path.Selected

/-! The object that keyed entries build. Each entry comes to at most one edit of the object, and what
the object holds in the end is read off the edits. -/

namespace BulkActions.Mapping

/-- Every path among the values is an expression. -/
def KeyValueMapping.WellFormed (m : KeyValueMapping) : Prop :=
  ∀ e ∈ m.entries, ∀ value ∈ e.value, isPath value = true → (Path.expression? value).isOk = true

instance (m : KeyValueMapping) : Decidable m.WellFormed :=
  inferInstanceAs (Decidable (∀ e ∈ m.entries, ∀ value ∈ e.value,
    isPath value = true → (Path.expression? value).isOk = true))

/-- The entry has a value and a safe key of these segments. -/
def Entry.AimsAt (e : Entry) (path : List String) : Prop :=
  e.value.isSome = true ∧ checkSegments e.key = .ok path

namespace Entry

variable [Path.Evaluator]

/-- The entry has a value that comes to this one, or to none where its path has no match. -/
def Resolves (record : SourceRecord) (e : Entry) (resolved : Option Json) : Prop :=
  ∃ value, e.value = some value ∧ entryValue record e value = .ok resolved

def Fails (record : SourceRecord) (e : Entry) (failure : Failure) : Prop :=
  ∃ value, e.value = some value ∧ entryValue record e value = .error failure

/-- The report of an entry whose path has no match. -/
def missed (record : SourceRecord) (e : Entry) : List Miss :=
  match e.value with
  | none => []
  | some value =>
    match entryValue record e value with
    | .ok none => [⟨e.slot, value, some e.key⟩]
    | _ => []

/-- What an entry does to the object, if anything. -/
def edit? (record : SourceRecord) (e : Entry) : Option Edit :=
  match e.value, checkSegments e.key with
  | some value, .ok path =>
    match entryValue record e value with
    | .ok resolved => some ⟨path, resolved⟩
    | .error _ => none
  | _, _ => none

variable {record : SourceRecord} {e : Entry}

theorem not_fails_of_none (absent : e.value = none) (failure : Failure) :
    ¬ e.Fails record failure := by
  rintro ⟨value, shape, _⟩
  cases absent.symm.trans shape

theorem not_fails_of_resolves {resolved : Option Json} (resolves : e.Resolves record resolved)
    (failure : Failure) : ¬ e.Fails record failure := by
  rintro ⟨value, shape, failed⟩
  obtain ⟨same, known, answer⟩ := resolves
  cases known.symm.trans shape
  cases answer.symm.trans failed

theorem fails_or_goes_on (record : SourceRecord) (e : Entry) :
    (∃ failure, e.Fails record failure) ∨
      (∀ failure, ¬ e.Fails record failure) ∧
        (e.value.isSome = true → ∃ resolved, e.Resolves record resolved) := by
  cases shape : e.value with
  | none => exact .inr ⟨not_fails_of_none shape, fun valued => nomatch valued⟩
  | some value =>
    cases answer : entryValue record e value with
    | error failure => exact .inl ⟨failure, value, shape, answer⟩
    | ok resolved =>
      have resolves : e.Resolves record resolved := ⟨value, shape, answer⟩
      exact .inr ⟨not_fails_of_resolves resolves, fun _ => ⟨resolved, resolves⟩⟩

theorem edit?_eq_some_iff (edit : Edit) :
    e.edit? record = some edit ↔ e.AimsAt edit.path ∧ e.Resolves record edit.value := by
  obtain ⟨path, resolved⟩ := edit
  unfold edit? AimsAt Resolves
  cases shape : e.value with
  | none => simp
  | some value =>
    cases safe : checkSegments e.key with
    | error refusal => simp
    | ok segments =>
      cases answer : entryValue record e value with
      | error failure => simp [answer]
      | ok found => simp [answer]

end Entry

section Values

variable [Path.Evaluator] {record : SourceRecord} {e : Entry} {value : String}

theorem distinctKeys_entryValue (distinct : ∀ slot, (record.slot slot).distinctKeys = true)
    {v : Json} (answer : entryValue record e value = .ok (some v)) : v.distinctKeys = true := by
  unfold entryValue resolvePath at answer
  split at answer
  · split at answer
    · rename_i found evaluated
      cases found with
      | missing => cases answer
      | found w =>
        cases answer
        exact Path.distinctKeys_answer (distinct e.slot) evaluated
    · cases answer
  · cases answer
    rfl

theorem sound_of_edit? (distinct : ∀ slot, (record.slot slot).distinctKeys = true) {edit : Edit}
    (known : e.edit? record = some edit) : edit.Sound := by
  obtain ⟨⟨_, safe⟩, value, _, answer⟩ := (Entry.edit?_eq_some_iff edit).mp known
  refine ⟨checkSegments_eq_ok safe ▸ segments_ne_nil e.key, fun v written => ?_⟩
  rw [written] at answer
  exact distinctKeys_entryValue distinct answer

/-- A value fails only as a path that is no expression. -/
theorem malformed_of_fails {failure : Failure} (failed : entryValue record e value = .error failure) :
    isPath value = true ∧ (Path.expression? value).isOk = false := by
  unfold entryValue resolvePath Path.Evaluator.answer at failed
  split at failed
  · rename_i path
    refine ⟨path, ?_⟩
    cases parsed : Path.expression? value with
    | error e => rfl
    | ok expr => simp only [parsed] at failed; cases failed
  · cases failed

end Values

theorem assign_of_safe {key : String} {path : List String} (safe : checkSegments key = .ok path)
    (object : Assoc String Json) (resolved : Option Json) :
    (assign key resolved).on object = (Edit.apply object ⟨path, resolved⟩, .ok ()) := by
  cases resolved <;>
    simp only [assign, setValue, unsetValue, InPlace.on_bind, safe, InPlace.on_lift,
      InPlace.on_modify, Edit.apply]

/-- A key that is refused leaves the object alone. -/
theorem assign_of_denied {key : String} {refusal : UnsafeKey}
    (refused : checkSegments key = .error refusal) (object : Assoc String Json)
    (resolved : Option Json) : (assign key resolved).on object = (object, .error refusal) := by
  cases resolved <;>
    simp only [assign, setValue, unsetValue, InPlace.on_bind, refused, InPlace.on_lift]

section Applying

variable [Path.Evaluator] (record : SourceRecord) (object : Assoc String Json)

/-- The object after an entry whose value did not fail. -/
def Entry.edited (e : Entry) : Assoc String Json :=
  match e.edit? record with
  | some edit => Edit.apply object edit
  | none => object

theorem applyAll_edits_cons (e : Entry) (rest : List Entry) :
    Edit.applyAll object ((e :: rest).filterMap (Entry.edit? record)) =
      Edit.applyAll (e.edited record object) (rest.filterMap (Entry.edit? record)) := by
  unfold Entry.edited
  cases known : e.edit? record <;> simp [known, Edit.applyAll]

/-- An entry whose value fails ends the field. -/
theorem applyEntries_of_fails {e : Entry} {failure : Failure} (fails : e.Fails record failure)
    (rest : List Entry) : applyEntries record object (e :: rest) = ⟨.error failure, [], []⟩ := by
  obtain ⟨value, shape, answer⟩ := fails
  simp only [applyEntries, shape, answer]

/-- After any other entry those that are left go on from the edited object. -/
theorem applyEntries_of_goes_on {e : Entry} (goesOn : ∀ failure, ¬ e.Fails record failure)
    (rest : List Entry) :
    (applyEntries record object (e :: rest)).outcome =
        (applyEntries record (e.edited record object) rest).outcome ∧
      (applyEntries record object (e :: rest)).misses =
        e.missed record ++ (applyEntries record (e.edited record object) rest).misses := by
  cases shape : e.value with
  | none => simp [applyEntries, Entry.edited, Entry.edit?, Entry.missed, shape]
  | some value =>
    cases answer : entryValue record e value with
    | error failure => exact absurd ⟨value, shape, answer⟩ (goesOn failure)
    | ok resolved =>
      cases safe : checkSegments e.key with
      | ok path =>
        cases resolved <;>
          simp [applyEntries, Entry.edited, Entry.edit?, Entry.missed, shape, answer, safe,
            assign_of_safe safe]
      | error refusal =>
        cases resolved <;>
          simp [applyEntries, Entry.edited, Entry.edit?, Entry.missed, shape, answer, safe,
            assign_of_denied safe]

/-- The entries apply as the list of their edits, unless the value of one of them fails. -/
theorem outcome_applyEntries (entries : List Entry) :
    ((applyEntries record object entries).outcome =
        .ok (Edit.applyAll object (entries.filterMap (Entry.edit? record))) ∧
      ∀ e ∈ entries, e.value.isSome = true → ∃ resolved, e.Resolves record resolved) ∨
    ∃ e ∈ entries, ∃ failure, e.Fails record failure ∧
      (applyEntries record object entries).outcome = .error failure := by
  induction entries generalizing object with
  | nil => exact .inl ⟨rfl, fun _ member => (nomatch member)⟩
  | cons e rest ih =>
    rcases Entry.fails_or_goes_on record e with ⟨failure, fails⟩ | ⟨goesOn, first⟩
    · have ends := congrArg Building.outcome (applyEntries_of_fails record object fails rest)
      exact .inr ⟨e, List.mem_cons_self, failure, fails, ends⟩
    · rw [(applyEntries_of_goes_on record object goesOn rest).1, applyAll_edits_cons]
      rcases ih (e.edited record object) with ⟨applied, later⟩ | ⟨other, member, failed⟩
      · exact .inl ⟨applied, List.forall_mem_cons.mpr ⟨first, later⟩⟩
      · exact .inr ⟨other, List.mem_cons_of_mem e member, failed⟩

/-- Entries whose paths are all expressions come to the object of their edits, each of them with a
value of its own. -/
theorem outcome_of_wellFormed {m : KeyValueMapping} (wellFormed : m.WellFormed) (default : Slot) :
    (applyField record (.custom (some (.keyValueMap (some m)))) default).outcome =
        .ok (some (.obj (Edit.applyAll [] (m.entries.filterMap (Entry.edit? record))))) ∧
      ∀ e ∈ m.entries, e.value.isSome = true → ∃ resolved, e.Resolves record resolved := by
  have whole : (applyField record (.custom (some (.keyValueMap (some m)))) default).outcome =
      (applyEntries record [] m.entries).outcome.map fun object => some (.obj object) := rfl
  rcases outcome_applyEntries record [] m.entries with ⟨applied, resolves⟩ | ⟨e, member, failure,
    ⟨value, shape, failed⟩, _⟩
  · exact ⟨by rw [whole, applied]; rfl, resolves⟩
  · obtain ⟨path, malformed⟩ := malformed_of_fails failed
    rw [wellFormed e member value shape path] at malformed
    cases malformed

end Applying

section Object

variable [Path.Evaluator]

/-- An entry decides what stands at its segments, as long as the entries after it aim apart. -/
def KeyValueMapping.LastWriterWins (m : KeyValueMapping) (record : SourceRecord)
    (object : Assoc String Json) : Prop :=
  ∀ before e later path, m.entries = before ++ e :: later → e.AimsAt path →
    (∀ other ∈ later, ∀ q, other.AimsAt q → Apart path q) →
    ∃ resolved, e.Resolves record resolved ∧ lookupAt path (.obj object) = resolved

/-- Whatever stands below the object stands at or below the segments of an entry that resolved to a
value, or is an object above them. -/
def KeyValueMapping.NothingElse (m : KeyValueMapping) (record : SourceRecord)
    (object : Assoc String Json) : Prop :=
  ∀ path v, path ≠ [] → lookupAt path (.obj object) = some v →
    ∃ e ∈ m.entries, ∃ q w, e.AimsAt q ∧ e.Resolves record (some w) ∧
      (q <+: path ∨ (∃ inner, v = .obj inner) ∧ path <+: q ∧ path ≠ q)

variable {record : SourceRecord} {m : KeyValueMapping}
  (distinct : ∀ slot, (record.slot slot).distinctKeys = true)

include distinct

theorem sound_of_mem_edits (entries : List Entry) :
    ∀ edit ∈ entries.filterMap (Entry.edit? record), edit.Sound := by
  intro edit member
  obtain ⟨e, _, known⟩ := List.mem_filterMap.mp member
  exact sound_of_edit? distinct known

theorem lastWriterWins_applyAll
    (resolves : ∀ e ∈ m.entries, e.value.isSome = true → ∃ resolved, e.Resolves record resolved) :
    m.LastWriterWins record (Edit.applyAll [] (m.entries.filterMap (Entry.edit? record))) := by
  intro before e later path order aims apart
  obtain ⟨resolved, known⟩ := resolves e (by simp [order]) aims.1
  have own : e.edit? record = some ⟨path, resolved⟩ :=
    (Entry.edit?_eq_some_iff ⟨path, resolved⟩).mpr ⟨aims, known⟩
  have away : ∀ edit ∈ later.filterMap (Entry.edit? record), Apart path edit.path := by
    intro edit member
    obtain ⟨other, present, made⟩ := List.mem_filterMap.mp member
    exact apart other present edit.path ((Entry.edit?_eq_some_iff edit).mp made).1
  have edits : m.entries.filterMap (Entry.edit? record) =
      before.filterMap (Entry.edit? record) ++ ⟨path, resolved⟩ ::
        later.filterMap (Entry.edit? record) := by
    rw [order, List.filterMap_append, List.filterMap_cons_some own]
  have sound := sound_of_mem_edits distinct m.entries
  rw [edits] at sound ⊢
  exact ⟨resolved, known, Edit.lookupAt_applyAll sound away rfl⟩

theorem nothingElse_applyAll :
    m.NothingElse record (Edit.applyAll [] (m.entries.filterMap (Entry.edit? record))) := by
  intro path v below found
  have accounted := Edit.accounted_nil.applyAll (sound_of_mem_edits distinct m.entries) rfl
  obtain ⟨edit, member, written, place⟩ := accounted path v below found
  obtain ⟨e, present, made⟩ := List.mem_filterMap.mp member
  obtain ⟨aims, resolves⟩ := (Entry.edit?_eq_some_iff edit).mp made
  obtain ⟨w, value⟩ := Option.isSome_iff_exists.mp written
  exact ⟨e, present, edit.path, w, aims, value ▸ resolves, place⟩

/-- The object of a mapping from keys: the last writer of a place wins, and nothing else is there. -/
theorem keyed_entries_last_writer_wins (wellFormed : m.WellFormed) (default : Slot) :
    ∃ object,
      (applyField record (.custom (some (.keyValueMap (some m)))) default).outcome =
        .ok (some (.obj object)) ∧
      (Json.obj object).distinctKeys = true ∧ m.LastWriterWins record object ∧
      m.NothingElse record object := by
  obtain ⟨applied, resolves⟩ := outcome_of_wellFormed record wellFormed default
  exact ⟨_, applied, Edit.distinctKeys_applyAll (sound_of_mem_edits distinct m.entries) rfl,
    lastWriterWins_applyAll distinct resolves, nothingElse_applyAll distinct⟩

end Object

/-- A record with a nested object, a null and a text. -/
def sampleRecord : SourceRecord where
  input := .obj [("a", .obj [("id", .int 7), ("x", .str "old"), ("y", .null)])]
  output := .null
  metadata := .str "m"

/-- A literal that a later key descends through, an object from a path, a miss inside that object,
a refused key and an entry without a value. -/
def sampleMapping : KeyValueMapping where
  entries :=
    [⟨"t", .output, some "flat"⟩, ⟨"u.v", .input, some "$.a"⟩, ⟨"t.deep", .output, some "below"⟩,
      ⟨"u.v.id", .input, some "$.z"⟩, ⟨"__proto__", .input, some "$.a"⟩, ⟨"w", .metadata, none⟩]

def sampleObject : Assoc String Json :=
  [("t", .obj [("deep", .str "below")]), ("u", .obj [("v", .obj [("y", .null), ("x", .str "old")])])]

theorem keyed_entries_crossing_each_other :
    sampleMapping.WellFormed ∧ (∀ slot, (sampleRecord.slot slot).distinctKeys = true) ∧
    (applyField sampleRecord (.custom (some (.keyValueMap (some sampleMapping)))) .input).outcome =
      .ok (some (.obj sampleObject)) ∧
    sampleMapping.LastWriterWins sampleRecord sampleObject ∧
      sampleMapping.NothingElse sampleRecord sampleObject := by
  have wellFormed : sampleMapping.WellFormed := by decide
  have distinct : ∀ slot, (sampleRecord.slot slot).distinctKeys = true := by
    intro slot
    cases slot <;> rfl
  have mapped : (applyField sampleRecord (.custom (some (.keyValueMap (some sampleMapping))))
      .input).outcome = .ok (some (.obj sampleObject)) := rfl
  refine ⟨wellFormed, distinct, mapped, ?_⟩
  obtain ⟨object, made, _, wins, nothing⟩ := keyed_entries_last_writer_wins distinct wellFormed .input
  cases made.symm.trans mapped
  exact ⟨wins, nothing⟩

end BulkActions.Mapping
