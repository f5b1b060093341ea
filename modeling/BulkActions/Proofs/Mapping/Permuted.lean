import BulkActions.Proofs.Json.Shape
import BulkActions.Proofs.Mapping.Entries

/-! Entries in another order. Where no key leads to or through the place of another, the last edit of
a place is its only one, and the order shows in the order of the members alone. -/

namespace BulkActions

/-- The same value, or objects of the same distinct names whose members are alike. -/
inductive Json.Alike : Json → Json → Prop where
  | same (v : Json) : Alike v v
  | obj {a b : Assoc String Json} (distinct : (Assoc.keys a).Nodup)
      (keys : (Assoc.keys a).Perm (Assoc.keys b))
      (members : ∀ name v w, a.find? name = some v → b.find? name = some w → Alike v w) :
      Alike (.obj a) (.obj b)

namespace Mapping

/-- What is found at one place of two values, without what lies below an object. -/
inductive Level : Option Json → Option Json → Prop where
  | same (found : Option Json) : Level found found
  | objects (a b : Assoc String Json) : Level (some (.obj a)) (some (.obj b))

theorem Level.isSome_eq {found other : Option Json} (level : Level found other) :
    found.isSome = other.isSome := by
  cases level <;> rfl

/-- The two values are on a level at every place. -/
def Leveled (v w : Json) : Prop := ∀ path, Level (lookupAt path v) (lookupAt path w)

namespace Leveled

variable {a b : Assoc String Json}

theorem exists_find? (leveled : Leveled (.obj a) (.obj b)) (name : String) :
    (∃ v, a.find? name = some v) ↔ ∃ w, b.find? name = some w := by
  have here := (leveled [name]).isSome_eq
  simp only [lookupAt, Json.get?, Option.bind_fun_some] at here
  rw [← Option.isSome_iff_exists, ← Option.isSome_iff_exists, here]

theorem member (leveled : Leveled (.obj a) (.obj b)) {name : String} {v w : Json}
    (left : a.find? name = some v) (right : b.find? name = some w) : Leveled v w := by
  intro path
  have below := leveled (name :: path)
  rwa [lookupAt_obj, lookupAt_obj, left, right] at below

theorem alike {v w : Json} (leveled : Leveled v w) (distinct : v.distinctKeys = true)
    (distinct' : w.distinctKeys = true) : v.Alike w := by
  induction v using Json.induction generalizing w with
  | null | bool | num | str | arr =>
    -- nothing but an object is on a level with another value
    have top : Level (some _) (some w) := leveled []
    cases top
    exact .same _
  | obj fields ih =>
    have top : Level (some (.obj fields)) (some w) := leveled []
    cases top with
    | same => exact .same _
    | objects _ others =>
      have nodup := Json.nodup_keys distinct
      have nodup' := Json.nodup_keys distinct'
      have keys : (Assoc.keys fields).Perm (Assoc.keys others) := by
        refine (List.perm_ext_iff_of_nodup nodup nodup').mpr fun name => ?_
        rw [Assoc.mem_keys_iff nodup, Assoc.mem_keys_iff nodup', leveled.exists_find?]
      refine .obj nodup keys fun name v w left right => ?_
      exact ih (name, v) (Assoc.mem_of_find? left) (leveled.member left right)
        (Json.distinctKeys_find? distinct left) (Json.distinctKeys_find? distinct' right)

end Leveled

theorem lookupAt_append (path rest : List String) (v : Json) :
    lookupAt (path ++ rest) v = (lookupAt path v).bind (lookupAt rest) := by
  induction path generalizing v with
  | nil => rfl
  | cons name path ih =>
    simp only [List.cons_append, lookupAt, Option.bind_assoc]
    exact Option.bind_congr fun w _ => ih w

/-- Only an object has something below it. -/
theorem exists_obj_of_lookupAt {name : String} {rest : List String} {v w : Json}
    (found : lookupAt (name :: rest) v = some w) : ∃ fields, v = .obj fields := by
  cases v with
  | obj fields => exact ⟨fields, rfl⟩
  | _ => cases found

namespace Edit

/-- Sound edits, none of them at, above or below the place of another. -/
structure Tidy (edits : List Edit) : Prop where
  sound : ∀ edit ∈ edits, edit.Sound
  apart : edits.Pairwise fun edit other => Apart edit.path other.path

namespace Tidy

variable {edits others : List Edit}

theorem perm (tidy : Tidy edits) (permuted : edits.Perm others) : Tidy others where
  sound edit member := tidy.sound edit (permuted.mem_iff.mpr member)
  apart := (permuted.pairwise_iff And.symm).mp tidy.apart

/-- Each edit decides what stands at its place. -/
theorem lookupAt_of_mem (tidy : Tidy edits) {edit : Edit} (member : edit ∈ edits) :
    lookupAt edit.path (.obj (applyAll [] edits)) = edit.value := by
  obtain ⟨earlier, later, rfl⟩ := List.append_of_mem member
  have away := (List.pairwise_cons.mp (List.pairwise_append.mp tidy.apart).2.1).1
  exact lookupAt_applyAll tidy.sound away rfl

theorem lookupAt_below (tidy : Tidy edits) {edit : Edit} (member : edit ∈ edits)
    (rest : List String) :
    lookupAt (edit.path ++ rest) (.obj (applyAll [] edits)) = edit.value.bind (lookupAt rest) := by
  rw [lookupAt_append, tidy.lookupAt_of_mem member]

theorem exists_obj_above (tidy : Tidy edits) {edit : Edit} (member : edit ∈ edits)
    (written : edit.value.isSome = true) {path : List String} (above : path <+: edit.path)
    (proper : ¬ edit.path <+: path) :
    ∃ inner, lookupAt path (.obj (applyAll [] edits)) = some (.obj inner) := by
  obtain ⟨value, known⟩ := Option.isSome_iff_exists.mp written
  obtain ⟨rest, whole⟩ := above
  have found := tidy.lookupAt_of_mem member
  rw [← whole, lookupAt_append, known] at found
  obtain ⟨v, here, below⟩ := Option.bind_eq_some_iff.mp found
  cases rest with
  | nil => exact absurd (by simp [← whole]) proper
  | cons name rest =>
    obtain ⟨inner, rfl⟩ := exists_obj_of_lookupAt below
    exact ⟨inner, here⟩

theorem lookupAt_elsewhere (tidy : Tidy edits) {path : List String} (inside : path ≠ [])
    (undecided : ∀ edit ∈ edits, ¬ edit.path <+: path)
    (idle : ∀ edit ∈ edits, edit.value.isSome = true → ¬ path <+: edit.path) :
    lookupAt path (.obj (applyAll [] edits)) = none := by
  refine Option.eq_none_iff_forall_ne_some.mpr fun v found => ?_
  obtain ⟨edit, member, written, below | ⟨_, above, _⟩⟩ :=
    accounted_nil.applyAll tidy.sound rfl path v inside found
  · exact undecided edit member below
  · exact idle edit member written above

/-- A place is decided by an edit at or above it, holds an object where an edit writes below it, and
is empty otherwise. The order of the edits has no part in it. -/
theorem leveled (tidy : Tidy edits) (permuted : edits.Perm others) :
    Leveled (.obj (applyAll [] edits)) (.obj (applyAll [] others)) := by
  intro path
  have tidy' := tidy.perm permuted
  by_cases top : path = []
  · subst top
    exact .objects _ _
  by_cases decided : ∃ edit ∈ edits, edit.path <+: path
  · obtain ⟨edit, member, rest, rfl⟩ := decided
    rw [tidy.lookupAt_below member, tidy'.lookupAt_below (permuted.mem_iff.mp member)]
    exact .same _
  have undecided : ∀ edit ∈ edits, ¬ edit.path <+: path := fun edit member below =>
    decided ⟨edit, member, below⟩
  by_cases leads : ∃ edit ∈ edits, edit.value.isSome = true ∧ path <+: edit.path
  · obtain ⟨edit, member, written, above⟩ := leads
    have proper := undecided edit member
    obtain ⟨a, left⟩ := tidy.exists_obj_above member written above proper
    obtain ⟨b, right⟩ :=
      tidy'.exists_obj_above (permuted.mem_iff.mp member) written above proper
    rw [left, right]
    exact .objects a b
  · have idle : ∀ edit ∈ edits, edit.value.isSome = true → ¬ path <+: edit.path :=
      fun edit member written above => leads ⟨edit, member, written, above⟩
    have left := tidy.lookupAt_elsewhere top undecided idle
    have right := tidy'.lookupAt_elsewhere top
      (fun edit member => undecided edit (permuted.mem_iff.mpr member))
      (fun edit member => idle edit (permuted.mem_iff.mpr member))
    rw [left, right]
    exact .same none

theorem alike (tidy : Tidy edits) (permuted : edits.Perm others) :
    (Json.obj (applyAll [] edits)).Alike (.obj (applyAll [] others)) :=
  (tidy.leveled permuted).alike (distinctKeys_applyAll tidy.sound rfl)
    (distinctKeys_applyAll (tidy.perm permuted).sound rfl)

end Tidy

end Edit

section Entries

variable [Path.Evaluator] {record : SourceRecord}

theorem Entry.not_fails_of_valued {e : Entry}
    (valued : e.value.isSome = true → ∃ resolved, e.Resolves record resolved) (failure : Failure) :
    ¬ e.Fails record failure := by
  cases shape : e.value with
  | none => exact not_fails_of_none shape failure
  | some value =>
    obtain ⟨resolved, resolves⟩ := valued (by rw [shape]; rfl)
    exact not_fails_of_resolves resolves failure

theorem misses_applyEntries {entries : List Entry}
    (goesOn : ∀ e ∈ entries, ∀ failure, ¬ e.Fails record failure) (object : Assoc String Json) :
    (applyEntries record object entries).misses = entries.flatMap (Entry.missed record) := by
  induction entries generalizing object with
  | nil => rfl
  | cons e rest ih =>
    obtain ⟨first, later⟩ := List.forall_mem_cons.mp goesOn
    rw [(applyEntries_of_goes_on record object first rest).2, ih later, List.flatMap_cons]

theorem tidy_edits (distinct : ∀ slot, (record.slot slot).distinctKeys = true) {entries : List Entry}
    (apart : entries.Pairwise fun e other => Apart (segments e.key) (segments other.key)) :
    Edit.Tidy (entries.filterMap (Entry.edit? record)) := by
  refine ⟨sound_of_mem_edits distinct entries, ?_⟩
  refine apart.filterMap _ fun e e' keys edit known edit' known' => ?_
  obtain ⟨⟨_, safe⟩, _⟩ := (Entry.edit?_eq_some_iff edit).mp known
  obtain ⟨⟨_, safe'⟩, _⟩ := (Entry.edit?_eq_some_iff edit').mp known'
  rwa [checkSegments_eq_ok safe, checkSegments_eq_ok safe']

theorem misses_applyField {m : KeyValueMapping} (wellFormed : m.WellFormed) (default : Slot) :
    (applyField record (.custom (some (.keyValueMap (some m)))) default).misses =
      m.entries.flatMap (Entry.missed record) := by
  have resolves := (outcome_of_wellFormed record wellFormed default).2
  exact misses_applyEntries (fun e member => Entry.not_fails_of_valued (resolves e member)) []

end Entries

theorem KeyValueMapping.WellFormed.perm {m n : KeyValueMapping} (wellFormed : m.WellFormed)
    (permuted : m.entries.Perm n.entries) : n.WellFormed :=
  fun e member => wellFormed e (permuted.mem_iff.mpr member)

/-- Entries whose keys keep out of each other's way build the same object in any order, but for the
order of the members, and report the same misses. -/
theorem permuted_entries_build_alike [Path.Evaluator] {record : SourceRecord} {m n : KeyValueMapping}
    (distinct : ∀ slot, (record.slot slot).distinctKeys = true) (wellFormed : m.WellFormed)
    (permuted : m.entries.Perm n.entries)
    (apart : m.entries.Pairwise fun e other => Apart (segments e.key) (segments other.key))
    (default : Slot) :
    ∃ a b,
      (applyField record (.custom (some (.keyValueMap (some m)))) default).outcome =
        .ok (some (.obj a)) ∧
      (applyField record (.custom (some (.keyValueMap (some n)))) default).outcome =
        .ok (some (.obj b)) ∧
      (Json.obj a).Alike (.obj b) ∧
      (applyField record (.custom (some (.keyValueMap (some m)))) default).misses.Perm
        (applyField record (.custom (some (.keyValueMap (some n)))) default).misses := by
  have wellFormed' := wellFormed.perm permuted
  have alike := (tidy_edits distinct apart).alike (permuted.filterMap (Entry.edit? record))
  have misses := permuted.flatMap_right (Entry.missed record)
  rw [← misses_applyField wellFormed default, ← misses_applyField wellFormed' default] at misses
  exact ⟨_, _, (outcome_of_wellFormed record wellFormed default).1,
    (outcome_of_wellFormed record wellFormed' default).1, alike, misses⟩

/-- A text and an object from a path below one name, a miss beside them, a refused key whose path
has no match, an entry without a value and a text of its own. -/
def tidyMapping : KeyValueMapping where
  entries :=
    [⟨"u.v", .input, some "$.a"⟩, ⟨"u.w.z", .output, some "text"⟩, ⟨"u.gone", .input, some "$.z"⟩,
      ⟨"__proto__", .output, some "$.q"⟩, ⟨"w", .metadata, none⟩, ⟨"t", .metadata, some "flat"⟩]

def tidyObject : Assoc String Json :=
  [("u", .obj [("v", .obj [("id", .int 7), ("x", .str "old"), ("y", .null)]),
    ("w", .obj [("z", .str "text")])]), ("t", .str "flat")]

/-- The same entries from the last to the first. -/
def reversedMapping : KeyValueMapping := ⟨tidyMapping.entries.reverse⟩

def reversedObject : Assoc String Json :=
  [("t", .str "flat"), ("u", .obj [("w", .obj [("z", .str "text")]),
    ("v", .obj [("id", .int 7), ("x", .str "old"), ("y", .null)])])]

theorem permuted_entries_build_alike_reversed :
    (∀ slot, (sampleRecord.slot slot).distinctKeys = true) ∧ tidyMapping.WellFormed ∧
    tidyMapping.entries.Perm reversedMapping.entries ∧
    (tidyMapping.entries.Pairwise fun e other => Apart (segments e.key) (segments other.key)) ∧
    (applyField sampleRecord (.custom (some (.keyValueMap (some tidyMapping)))) .input).outcome =
      .ok (some (.obj tidyObject)) ∧
    (applyField sampleRecord (.custom (some (.keyValueMap (some reversedMapping))))
      .input).outcome = .ok (some (.obj reversedObject)) ∧
    (Json.obj tidyObject).Alike (.obj reversedObject) ∧
    List.Perm
      [⟨.input, "$.z", some "u.gone"⟩, ⟨.output, "$.q", some "__proto__"⟩]
      (applyField sampleRecord (.custom (some (.keyValueMap (some reversedMapping))))
        .input).misses := by
  have distinct : ∀ slot, (sampleRecord.slot slot).distinctKeys = true := by
    intro slot
    cases slot <;> rfl
  have wellFormed : tidyMapping.WellFormed := by decide
  have permuted : tidyMapping.entries.Perm reversedMapping.entries :=
    (List.reverse_perm _).symm
  have apart : tidyMapping.entries.Pairwise fun e other =>
      Apart (segments e.key) (segments other.key) := by decide
  have mapped : (applyField sampleRecord (.custom (some (.keyValueMap (some tidyMapping))))
      .input).outcome = .ok (some (.obj tidyObject)) := rfl
  have mapped' : (applyField sampleRecord (.custom (some (.keyValueMap (some reversedMapping))))
      .input).outcome = .ok (some (.obj reversedObject)) := rfl
  refine ⟨distinct, wellFormed, permuted, apart, mapped, mapped', ?_⟩
  obtain ⟨a, b, left, right, alike, misses⟩ :=
    permuted_entries_build_alike distinct wellFormed permuted apart .input
  cases left.symm.trans mapped
  cases right.symm.trans mapped'
  exact ⟨alike, misses⟩

end Mapping

end BulkActions
