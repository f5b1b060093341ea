import BulkActions.Proofs.Mapping.Unsafe

/-! Names that reach the prototype of an object. No call that sets or unsets a dotted key brings such
a name into an object that has none, whatever the key is; a call whose key has one is refused and
leaves the object as it was. -/

namespace BulkActions.Json

/-- A member of the value, however deep, has this name. -/
inductive HasKey (name : String) : Json → Prop where
  | own {fields : List (String × Json)} {v : Json} (member : (name, v) ∈ fields) :
      HasKey name (.obj fields)
  | inMember {fields : List (String × Json)} {binding : String × Json} (member : binding ∈ fields)
      (deeper : HasKey name binding.2) : HasKey name (.obj fields)
  | inItem {items : List Json} {v : Json} (member : v ∈ items) (deeper : HasKey name v) :
      HasKey name (.arr items)

end BulkActions.Json

namespace BulkActions.Mapping

/-- No member of the value, however deep, has a denied name. -/
def Harmless (v : Json) : Prop := ∀ name, v.HasKey name → isDenied name = false

theorem harmless_obj_iff (fields : Assoc String Json) :
    Harmless (.obj fields) ↔
      ∀ binding ∈ fields, isDenied binding.1 = false ∧ Harmless binding.2 := by
  constructor
  · intro harmless binding member
    exact ⟨harmless binding.1 (.own member), fun name deeper => harmless name (.inMember member deeper)⟩
  · intro members name has
    cases has with
    | own member => exact (members _ member).1
    | inMember member deeper => exact (members _ member).2 name deeper

theorem harmless_arr_iff (items : List Json) :
    Harmless (.arr items) ↔ ∀ v ∈ items, Harmless v := by
  constructor
  · intro harmless v member name deeper
    exact harmless name (.inItem member deeper)
  · intro inside name has
    cases has with
    | inItem member deeper => exact inside _ member name deeper

theorem harmless_empty : Harmless (.obj []) :=
  (harmless_obj_iff []).mpr fun _ member => nomatch member

theorem harmless_null : Harmless .null := by
  intro name has
  cases has

theorem harmless_str (s : String) : Harmless (.str s) := by
  intro name has
  cases has

/-- Segments that are checked are all of the key, and none of them is denied. -/
theorem allowed_of_checkSegments {key : String} {path : List String}
    (safe : checkSegments key = .ok path) : ∀ segment ∈ path, isDenied segment = false := by
  intro segment member
  rw [checkSegments_eq_ok safe] at member
  unfold checkSegments at safe
  split at safe
  · cases safe
  · rename_i none
    simpa using List.find?_eq_none.mp none segment member

section Members

variable {fields : Assoc String Json} (harmless : Harmless (.obj fields)) {name : String} {v : Json}

include harmless

theorem Harmless.find? (found : fields.find? name = some v) :
    isDenied name = false ∧ Harmless v :=
  (harmless_obj_iff fields).mp harmless _ (Assoc.mem_of_find? found)

theorem Harmless.insert (allowed : isDenied name = false) (value : Harmless v) :
    Harmless (.obj (fields.insert name v)) := by
  refine (harmless_obj_iff _).mpr fun binding member => ?_
  rcases Assoc.mem_insert member with old | new
  · exact (harmless_obj_iff fields).mp harmless binding old
  · exact new ▸ ⟨allowed, value⟩

theorem Harmless.erase (name : String) : Harmless (.obj (fields.erase name)) :=
  (harmless_obj_iff _).mpr fun binding member =>
    (harmless_obj_iff fields).mp harmless binding (Assoc.mem_of_mem_erase member)

theorem Harmless.membersOf (name : String) : Harmless (.obj (membersOf (fields.find? name))) := by
  unfold Mapping.membersOf
  split
  · rename_i found
    exact (harmless.find? found).2
  · exact harmless_empty

end Members

/-! What an edit creates on its way down has a name from its own segments. -/

theorem Harmless.setAt {value : Json} (written : Harmless value) {path : List String}
    {fields : Assoc String Json} (allowed : ∀ segment ∈ path, isDenied segment = false)
    (harmless : Harmless (.obj fields)) : Harmless (.obj (setAt value path fields)) := by
  fun_induction Mapping.setAt value path fields with
  | case1 fields => exact harmless
  | case2 name fields => exact harmless.insert (allowed name List.mem_cons_self) written
  | case3 name rest fields inner ih =>
    obtain ⟨first, later⟩ := List.forall_mem_cons.mp allowed
    have below := ih later (harmless.membersOf name)
    exact harmless.insert first below

theorem Harmless.unsetAt {fields : Assoc String Json} (harmless : Harmless (.obj fields))
    (path : List String) : Harmless (.obj (unsetAt path fields)) := by
  fun_induction Mapping.unsetAt path fields with
  | case1 fields => exact harmless
  | case2 name fields => exact harmless.erase name
  | case3 name rest fields inner members found ih =>
    obtain ⟨allowed, value⟩ := harmless.find? found
    exact harmless.insert allowed (ih value)
  | case4 name rest fields inner plain => exact harmless

namespace Edit

/-- The edit aims at no denied name and brings none with it. -/
structure Allowed (edit : Edit) : Prop where
  path : ∀ segment ∈ edit.path, isDenied segment = false
  value : ∀ v, edit.value = some v → Harmless v

theorem harmless_apply {object : Assoc String Json} {edit : Edit} (allowed : edit.Allowed)
    (harmless : Harmless (.obj object)) : Harmless (.obj (apply object edit)) := by
  unfold apply
  split
  · rename_i v written
    exact (allowed.value v written).setAt allowed.path harmless
  · exact harmless.unsetAt edit.path

theorem harmless_applyAll {object : Assoc String Json} {edits : List Edit}
    (allowed : ∀ edit ∈ edits, edit.Allowed) (harmless : Harmless (.obj object)) :
    Harmless (.obj (applyAll object edits)) := by
  induction edits generalizing object with
  | nil => exact harmless
  | cons edit rest ih =>
    obtain ⟨first, later⟩ := List.forall_mem_cons.mp allowed
    exact ih later (harmless_apply first harmless)

end Edit

/-- A call that sets or unsets a dotted key. -/
inductive KeyCall where
  | set (key : String) (value : Json)
  | unset (key : String)

namespace KeyCall

def key : KeyCall → String
  | .set key _ | .unset key => key

/-- The value to set. -/
def value? : KeyCall → Option Json
  | .set _ value => some value
  | .unset _ => none

/-- The object after a call, and how the call is answered. -/
def run (object : Assoc String Json) : KeyCall → Assoc String Json × Except UnsafeKey Unit
  | .set key value => (setValue key value).on object
  | .unset key => (unsetValue key).on object

def answer (object : Assoc String Json) (call : KeyCall) : Except UnsafeKey Unit :=
  (call.run object).2

def after (object : Assoc String Json) (call : KeyCall) : Assoc String Json := (call.run object).1

def afterAll (object : Assoc String Json) (calls : List KeyCall) : Assoc String Json :=
  calls.foldl after object

theorem run_eq_assign (object : Assoc String Json) (call : KeyCall) :
    call.run object = (assign call.key call.value?).on object := by
  cases call <;> rfl

/-- A call with a safe key edits the object at its segments; any other call is refused for one of
them, and leaves the object as it was. -/
theorem run_cases (object : Assoc String Json) (call : KeyCall) :
    ((∀ segment ∈ segments call.key, isDenied segment = false) ∧
      call.run object = (Edit.apply object ⟨segments call.key, call.value?⟩, .ok ())) ∨
    ∃ segment ∈ segments call.key, isDenied segment = true ∧
      call.run object = (object, .error ⟨call.key, segment⟩) := by
  rw [run_eq_assign]
  cases first : (segments call.key).find? isDenied with
  | none =>
    have safe : checkSegments call.key = .ok (segments call.key) := by rw [checkSegments, first]
    exact .inl ⟨allowed_of_checkSegments safe, assign_of_safe safe object _⟩
  | some segment =>
    have refused : checkSegments call.key = .error ⟨call.key, segment⟩ := by
      rw [checkSegments, first]
    exact .inr ⟨segment, List.mem_of_find?_eq_some first, List.find?_some first,
      assign_of_denied refused object _⟩

variable {object : Assoc String Json}

/-- One call brings no denied name into the object, be it refused or not. -/
theorem harmless_after {call : KeyCall} (value : ∀ v, call.value? = some v → Harmless v)
    (harmless : Harmless (.obj object)) : Harmless (.obj (call.after object)) := by
  rcases call.run_cases object with ⟨allowed, answered⟩ | ⟨segment, _, _, refused⟩
  · simp only [after, answered]
    exact Edit.harmless_apply ⟨allowed, value⟩ harmless
  · simp only [after, refused]
    exact harmless

theorem harmless_afterAll {calls : List KeyCall}
    (values : ∀ call ∈ calls, ∀ v, call.value? = some v → Harmless v)
    (harmless : Harmless (.obj object)) : Harmless (.obj (afterAll object calls)) := by
  induction calls generalizing object with
  | nil => exact harmless
  | cons call rest ih =>
    obtain ⟨first, later⟩ := List.forall_mem_cons.mp values
    exact ih later (harmless_after first harmless)

/-- A call is refused exactly for a denied segment of its key. A refused call leaves the object as it
was, and a value that is set is found at its key. -/
theorem answer_spec (object : Assoc String Json) (call : KeyCall) :
    ((∃ refusal, call.answer object = .error refusal) ↔
      ∃ segment ∈ segments call.key, isDenied segment = true) ∧
    (∀ refusal, call.answer object = .error refusal → call.after object = object) ∧
    ∀ v, call.answer object = .ok () → call.value? = some v →
      lookupAt (segments call.key) (.obj (call.after object)) = some v := by
  unfold answer after
  rcases call.run_cases object with ⟨allowed, answered⟩ | ⟨segment, member, denied, refused⟩
  · rw [answered]
    refine ⟨⟨fun ⟨refusal, other⟩ => (nomatch other), fun ⟨segment, member, denied⟩ => ?_⟩, ?_, ?_⟩
    · rw [allowed segment member] at denied
      cases denied
    · intro refusal other
      cases other
    · intro v _ set
      rw [set]
      exact lookupAt_setAt _ (segments_ne_nil call.key) object
  · rw [refused]
    refine ⟨⟨fun _ => ⟨segment, member, denied⟩, fun _ => ⟨_, rfl⟩⟩, fun _ _ => rfl, ?_⟩
    intro v other
    cases other

end KeyCall

/-- No value of an entry is a path. -/
def KeyValueMapping.IsLiteral (m : KeyValueMapping) : Prop :=
  ∀ e ∈ m.entries, ∀ value ∈ e.value, isPath value = false

/-- Literal entries always build an object, and it has no denied name. -/
theorem harmless_literal [Path.Evaluator] (record : SourceRecord) {m : KeyValueMapping}
    (literal : m.IsLiteral) :
    ∃ object, (applyKeyValueMap record m).outcome = .ok (some (.obj object)) ∧
      Harmless (.obj object) := by
  have resolves {e : Entry} (member : e ∈ m.entries) {value : String} (shape : e.value = some value) :
      entryValue record e value = .ok (some (.str value)) := by
    simp [entryValue, literal e member value shape]
  rcases outcome_applyEntries record [] m.entries with
    ⟨built, _⟩ | ⟨e, member, failure, ⟨value, shape, fails⟩, _⟩
  · have outcome : (applyKeyValueMap record m).outcome =
        .ok (some (.obj (Edit.applyAll [] (m.entries.filterMap (Entry.edit? record))))) := by
      simp only [applyKeyValueMap, built, Except.map]
    refine ⟨_, outcome, Edit.harmless_applyAll (fun edit made => ?_) harmless_empty⟩
    obtain ⟨e, member, known⟩ := List.mem_filterMap.mp made
    obtain ⟨⟨_, safe⟩, value, shape, answer⟩ := (Entry.edit?_eq_some_iff edit).mp known
    refine ⟨allowed_of_checkSegments safe, fun v written => ?_⟩
    have same := Except.ok.inj (answer.symm.trans (resolves member shape))
    cases written.symm.trans same
    exact harmless_str value
  · cases fails.symm.trans (resolves member shape)

/-- Whatever calls set and unset keys of an object without denied names, with values that have none,
no name of the object is denied after any of them. A call is refused exactly for a denied segment of
its key, and then leaves the object as it was; a value that is set is found at its key. So a mapping
from keys to literals alone always builds an object, and one without denied names. -/
theorem no_denied_name_is_created [Path.Evaluator] {object : Assoc String Json}
    (harmless : Harmless (.obj object)) {calls : List KeyCall}
    (values : ∀ call ∈ calls, ∀ v, call.value? = some v → Harmless v) :
    (∀ earlier call later, calls = earlier ++ call :: later →
      Harmless (.obj (KeyCall.afterAll object (earlier ++ [call]))) ∧
      ((∃ refusal, call.answer (KeyCall.afterAll object earlier) = .error refusal) ↔
        ∃ segment ∈ segments call.key, isDenied segment = true) ∧
      (∀ refusal, call.answer (KeyCall.afterAll object earlier) = .error refusal →
        KeyCall.afterAll object (earlier ++ [call]) = KeyCall.afterAll object earlier) ∧
      ∀ v, call.answer (KeyCall.afterAll object earlier) = .ok () → call.value? = some v →
        lookupAt (segments call.key) (.obj (KeyCall.afterAll object (earlier ++ [call]))) =
          some v) ∧
    ∀ (record : SourceRecord) (m : KeyValueMapping), m.IsLiteral →
      ∃ built, (applyKeyValueMap record m).outcome = .ok (some (.obj built)) ∧
        Harmless (.obj built) := by
  constructor
  · rintro earlier call later rfl
    have upTo : ∀ other ∈ earlier ++ [call], ∀ v, other.value? = some v → Harmless v := by
      intro other member
      rw [List.append_cons] at values
      exact values other (List.mem_append_left later member)
    have last : KeyCall.afterAll object (earlier ++ [call]) =
        call.after (KeyCall.afterAll object earlier) := by
      simp [KeyCall.afterAll]
    have spec := KeyCall.answer_spec (KeyCall.afterAll object earlier) call
    rw [last]
    exact ⟨last ▸ KeyCall.harmless_afterAll upTo harmless, spec⟩
  · exact fun record m literal => harmless_literal record literal

/-- A list of objects, and a name between single underscores. -/
def sampleDocument : Assoc String Json :=
  [("a", .arr [.obj [("_b_", .null)]]), ("____", .str "four")]

/-- A refused write below the list, a write through it, a refused removal and a write of a name whose
underscores are split over two segments. -/
def sampleCalls : List KeyCall :=
  [.set "a.__proto__.x" .null, .set "a.b" (.arr [.obj [("c", .str "__proto__")]]),
    .unset "constructor", .set "__d.e__" .null]

/-- Literals at a key that is denied and at one that is not. -/
def sampleLiterals : KeyValueMapping where
  entries := [⟨"a.__b__", .input, some "x"⟩, ⟨"a.__b_", .input, some "y"⟩]

theorem harmless_sampleDocument : Harmless (.obj sampleDocument) := by
  simp only [sampleDocument, harmless_obj_iff, harmless_arr_iff, List.forall_mem_cons,
    List.not_mem_nil, false_implies, implies_true, and_true, harmless_str, harmless_null]
  decide

theorem no_denied_name_is_created_underscores :
    Harmless (.obj sampleDocument) ∧
    (∀ call ∈ sampleCalls, ∀ v, call.value? = some v → Harmless v) ∧
    sampleLiterals.IsLiteral ∧
    (∃ refusal, (KeyCall.unset "constructor").answer
      (KeyCall.afterAll sampleDocument (sampleCalls.take 2)) = .error refusal) ∧
    KeyCall.afterAll sampleDocument (sampleCalls.take 3) =
      KeyCall.afterAll sampleDocument (sampleCalls.take 2) ∧
    Harmless (.obj [("a", .obj [("b", .arr [.obj [("c", .str "__proto__")]])]),
      ("____", .str "four"), ("__d", .obj [("e__", .null)])]) ∧
    Harmless (.obj [("a", .obj [("__b_", .str "y")])]) := by
  have values : ∀ call ∈ sampleCalls, ∀ v, call.value? = some v → Harmless v := by
    simp only [sampleCalls, KeyCall.value?, List.forall_mem_cons, List.not_mem_nil, false_implies,
      implies_true, and_true, Option.some.injEq, forall_eq', reduceCtorEq, harmless_null,
      harmless_obj_iff, harmless_arr_iff, harmless_str, true_and]
    decide
  have literal : sampleLiterals.IsLiteral := by
    simp only [KeyValueMapping.IsLiteral, sampleLiterals]
    decide
  obtain ⟨every, built⟩ := no_denied_name_is_created harmless_sampleDocument values
  have third := every (sampleCalls.take 2) (.unset "constructor") (sampleCalls.drop 3) rfl
  have fourth := every (sampleCalls.take 3) (.set "__d.e__" .null) [] rfl
  obtain ⟨object, outcome, clear⟩ := built ⟨.null, .null, .null⟩ sampleLiterals literal
  have refused : ∃ refusal, (KeyCall.unset "constructor").answer
      (KeyCall.afterAll sampleDocument (sampleCalls.take 2)) = .error refusal :=
    third.2.1.mpr (by decide)
  obtain ⟨refusal, answer⟩ := refused
  cases outcome
  exact ⟨harmless_sampleDocument, values, literal, ⟨refusal, answer⟩, third.2.2.1 refusal answer,
    fourth.1, clear⟩

end BulkActions.Mapping
