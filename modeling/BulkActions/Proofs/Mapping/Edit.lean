import BulkActions.Proofs.Mapping.Key

/-! Edits of an object below its keys, one after the other. The last edit at a place decides what
stands there, and nothing stands where no edit has written. -/

namespace BulkActions.Mapping

/-- A value to write below the segments, or none to remove what stands there. -/
structure Edit where
  path : List String
  value : Option Json

namespace Edit

def apply (object : Assoc String Json) (edit : Edit) : Assoc String Json :=
  match edit.value with
  | some value => setAt value edit.path object
  | none => unsetAt edit.path object

def applyAll (object : Assoc String Json) (edits : List Edit) : Assoc String Json :=
  edits.foldl apply object

/-- An edit somewhere below the object, of a value with distinct keys. -/
structure Sound (edit : Edit) : Prop where
  named : edit.path ≠ []
  value : ∀ v, edit.value = some v → v.distinctKeys = true

variable {object : Assoc String Json} {edit : Edit}

theorem distinctKeys_apply (sound : edit.Sound) (distinct : (Json.obj object).distinctKeys = true) :
    (Json.obj (apply object edit)).distinctKeys = true := by
  unfold apply
  split
  · rename_i v written
    exact distinctKeys_setAt (sound.value v written) edit.path distinct
  · exact distinctKeys_unsetAt edit.path distinct

theorem lookupAt_apply (sound : edit.Sound) (distinct : (Json.obj object).distinctKeys = true) :
    lookupAt edit.path (.obj (apply object edit)) = edit.value := by
  unfold apply
  split
  · rename_i v written
    rw [lookupAt_setAt edit.path sound.named, written]
  · rename_i removed
    rw [lookupAt_unsetAt edit.path sound.named distinct, removed]

theorem lookupAt_apply_of_apart {p : List String} (apart : Apart p edit.path)
    (distinct : (Json.obj object).distinctKeys = true) :
    lookupAt p (.obj (apply object edit)) = lookupAt p (.obj object) := by
  unfold apply
  split
  · exact lookupAt_setAt_of_apart apart object
  · exact lookupAt_unsetAt_of_apart apart distinct

theorem distinctKeys_applyAll {edits : List Edit} (sound : ∀ edit ∈ edits, edit.Sound)
    (distinct : (Json.obj object).distinctKeys = true) :
    (Json.obj (applyAll object edits)).distinctKeys = true := by
  induction edits generalizing object with
  | nil => exact distinct
  | cons edit rest ih =>
    obtain ⟨first, later⟩ := List.forall_mem_cons.mp sound
    exact ih later (distinctKeys_apply first distinct)

theorem lookupAt_applyAll_of_apart {p : List String} {edits : List Edit}
    (sound : ∀ edit ∈ edits, edit.Sound) (apart : ∀ edit ∈ edits, Apart p edit.path)
    (distinct : (Json.obj object).distinctKeys = true) :
    lookupAt p (.obj (applyAll object edits)) = lookupAt p (.obj object) := by
  induction edits generalizing object with
  | nil => rfl
  | cons edit rest ih =>
    obtain ⟨first, later⟩ := List.forall_mem_cons.mp sound
    obtain ⟨away, others⟩ := List.forall_mem_cons.mp apart
    calc
      lookupAt p (.obj (applyAll (apply object edit) rest))
          = lookupAt p (.obj (apply object edit)) :=
        ih later others (distinctKeys_apply first distinct)
      _ = lookupAt p (.obj object) := lookupAt_apply_of_apart away distinct

/-- The last edit at a place decides, as long as the later ones stay apart from it. -/
theorem lookupAt_applyAll {earlier later : List Edit}
    (sound : ∀ other ∈ earlier ++ edit :: later, other.Sound)
    (apart : ∀ other ∈ later, Apart edit.path other.path)
    (distinct : (Json.obj object).distinctKeys = true) :
    lookupAt edit.path (.obj (applyAll object (earlier ++ edit :: later))) = edit.value := by
  obtain ⟨before, own, after⟩ : (∀ other ∈ earlier, other.Sound) ∧ edit.Sound ∧
      ∀ other ∈ later, other.Sound := by
    simpa only [List.forall_mem_append, List.forall_mem_cons] using sound
  have start := distinctKeys_applyAll before distinct
  rw [applyAll, List.foldl_append, List.foldl_cons]
  calc
    lookupAt edit.path (.obj (applyAll (apply (applyAll object earlier) edit) later))
        = lookupAt edit.path (.obj (apply (applyAll object earlier) edit)) :=
      lookupAt_applyAll_of_apart after apart (distinctKeys_apply own start)
    _ = edit.value := lookupAt_apply own start

/-- A place at or below one where a value was written, or an object above one. -/
def Covers (edits : List Edit) (p : List String) (v : Json) : Prop :=
  ∃ edit ∈ edits, edit.value.isSome = true ∧
    (edit.path <+: p ∨ (∃ inner, v = .obj inner) ∧ p <+: edit.path ∧ p ≠ edit.path)

theorem Covers.append {edits : List Edit} {p : List String} {v : Json} (covers : Covers edits p v)
    (more : List Edit) : Covers (edits ++ more) p v := by
  obtain ⟨edit, member, written⟩ := covers
  exact ⟨edit, List.mem_append_left more member, written⟩

/-- An object found at a place may be any other object. -/
theorem Covers.of_obj {edits : List Edit} {p : List String} {before after : Assoc String Json}
    (covers : Covers edits p (.obj before)) : Covers edits p (.obj after) := by
  obtain ⟨edit, member, written, place⟩ := covers
  exact ⟨edit, member, written, place.imp_right fun above => ⟨⟨after, rfl⟩, above.2⟩⟩

/-- Every value below the object is where the edits have brought it. -/
def Accounted (object : Assoc String Json) (edits : List Edit) : Prop :=
  ∀ p v, p ≠ [] → lookupAt p (.obj object) = some v → Covers edits p v

theorem accounted_nil : Accounted [] [] := by
  intro p v below found
  obtain ⟨name, rest, rfl⟩ := List.exists_cons_of_ne_nil below
  cases found

theorem Accounted.apply {edits : List Edit} (accounted : Accounted object edits) (edit : Edit)
    (distinct : (Json.obj object).distinctKeys = true) :
    Accounted (apply object edit) (edits ++ [edit]) := by
  intro p v below found
  unfold Edit.apply at found
  split at found
  · rename_i w written
    have own : edit ∈ edits ++ [edit] := by simp
    rcases found_setAt found with before | at_or_below | above
    · exact (accounted p v below before).append [edit]
    · exact ⟨edit, own, by simp [written], .inl at_or_below⟩
    · exact ⟨edit, own, by simp [written], .inr above⟩
  · rcases found_unsetAt distinct found with before | ⟨⟨inner, rfl⟩, _, before⟩
    · exact (accounted p v below before).append [edit]
    · exact (accounted p _ below before).of_obj.append [edit]

theorem Accounted.applyAll {earlier later : List Edit} (accounted : Accounted object earlier)
    (sound : ∀ edit ∈ later, edit.Sound) (distinct : (Json.obj object).distinctKeys = true) :
    Accounted (applyAll object later) (earlier ++ later) := by
  induction later generalizing object earlier with
  | nil => simpa [Edit.applyAll] using accounted
  | cons edit rest ih =>
    obtain ⟨first, others⟩ := List.forall_mem_cons.mp sound
    have next := ih (accounted.apply edit distinct) others (distinctKeys_apply first distinct)
    simpa [Edit.applyAll] using next

end Edit

end BulkActions.Mapping
