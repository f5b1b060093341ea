import BulkActions.Mapping.Key
import BulkActions.Proofs.Json.Distinct

/-! Writing and removing below dotted keys, as seen by looking values up. A write shows at its own
place, leaves apart places alone, and makes objects of the places above. -/

namespace BulkActions.Mapping

/-- Neither list of segments is a prefix of the other. -/
def Apart (p q : List String) : Prop := ¬ p <+: q ∧ ¬ q <+: p

instance (p q : List String) : Decidable (Apart p q) := inferInstanceAs (Decidable (_ ∧ _))

theorem splitDots_ne_nil (cs : List Char) : splitDots cs ≠ [] := by
  cases cs with
  | nil => simp [splitDots]
  | cons c rest =>
    rw [splitDots]
    split
    · simp
    · split <;> simp

theorem segments_ne_nil (key : String) : segments key ≠ [] := by
  simpa [segments] using splitDots_ne_nil key.toList

theorem checkSegments_eq_ok {key : String} {path : List String}
    (safe : checkSegments key = .ok path) : path = segments key := by
  unfold checkSegments at safe
  split at safe
  · cases safe
  · exact (Except.ok.inj safe).symm

theorem lookupAt_nil (v : Json) : lookupAt [] v = some v := rfl

theorem lookupAt_obj (name : String) (rest : List String) (fields : Assoc String Json) :
    lookupAt (name :: rest) (.obj fields) = (fields.find? name).bind (lookupAt rest) := rfl

/-- Below a value that is no object there is nothing, as below an empty object. -/
theorem bind_lookupAt (name : String) (rest : List String) (found : Option Json) :
    found.bind (lookupAt (name :: rest)) = lookupAt (name :: rest) (.obj (membersOf found)) := by
  cases found with
  | none => rfl
  | some v => cases v <;> rfl

theorem Apart.tail {name : String} {p q : List String} (apart : Apart (name :: p) (name :: q)) :
    Apart p q := by
  simpa [Apart, List.cons_prefix_cons] using apart

theorem Apart.head_ne {name other : String} {more : List String}
    (apart : Apart (other :: more) [name]) : other ≠ name := by
  rintro rfl
  exact apart.2 (by simp)

theorem Apart.exists_cons {p q : List String} (apart : Apart p q) :
    ∃ name rest, p = name :: rest := by
  cases p with
  | nil => exact absurd List.nil_prefix apart.1
  | cons name rest => exact ⟨name, rest, rfl⟩

section Set

variable {value : Json}

theorem lookupAt_setAt (path : List String) (named : path ≠ []) (fields : Assoc String Json) :
    lookupAt path (.obj (setAt value path fields)) = some value := by
  fun_induction setAt value path fields with
  | case1 fields => exact absurd rfl named
  | case2 name fields => simp [lookupAt_obj, Assoc.find?_insert, lookupAt_nil]
  | case3 name rest fields inner ih =>
    simp [lookupAt_obj, Assoc.find?_insert, ih inner]

theorem lookupAt_setAt_of_apart {p path : List String} (apart : Apart p path)
    (fields : Assoc String Json) :
    lookupAt p (.obj (setAt value path fields)) = lookupAt p (.obj fields) := by
  fun_induction setAt value path fields generalizing p with
  | case1 fields => exact absurd List.nil_prefix apart.2
  | case2 name fields =>
    obtain ⟨other, more, rfl⟩ := apart.exists_cons
    rw [lookupAt_obj, lookupAt_obj, Assoc.find?_insert, if_neg apart.head_ne]
  | case3 name rest fields inner ih =>
    obtain ⟨other, more, rfl⟩ := apart.exists_cons
    rw [lookupAt_obj, Assoc.find?_insert]
    split
    · rename_i same
      subst same
      -- more segments follow, so that what is no object may count as an empty one
      obtain ⟨next, deeper, rfl⟩ := apart.tail.exists_cons
      rw [Option.bind_some, ih apart.tail, ← bind_lookupAt, lookupAt_obj]
    · rfl

/-- What is found after a write was there before, or stands at or below the place of the write, or
is an object above it. -/
theorem found_setAt {p path : List String} {fields : Assoc String Json} {v : Json}
    (found : lookupAt p (.obj (setAt value path fields)) = some v) :
    lookupAt p (.obj fields) = some v ∨ path <+: p ∨
      (∃ inner, v = .obj inner) ∧ p <+: path ∧ p ≠ path := by
  fun_induction setAt value path fields generalizing p with
  | case1 fields => exact .inl found
  | case2 name fields =>
    cases p with
    | nil => exact .inr (.inr ⟨⟨_, (Option.some.inj found).symm⟩, List.nil_prefix, by simp⟩)
    | cons other more =>
      rw [lookupAt_obj, Assoc.find?_insert] at found
      split at found
      · rename_i same
        exact .inr (.inl (by simp [same]))
      · exact .inl found
  | case3 name rest fields inner ih =>
    cases p with
    | nil => exact .inr (.inr ⟨⟨_, (Option.some.inj found).symm⟩, List.nil_prefix, by simp⟩)
    | cons other more =>
      rw [lookupAt_obj, Assoc.find?_insert] at found
      split at found
      · rename_i same
        subst same
        rw [Option.bind_some] at found
        rcases ih found with before | below | ⟨object, above, proper⟩
        · cases more with
          | nil =>
            -- the write goes on below this name, which an object holds from now on
            exact .inr (.inr ⟨⟨_, (Option.some.inj before).symm⟩, by simp, by simpa using inner⟩)
          | cons next deeper => exact .inl (by rwa [lookupAt_obj, bind_lookupAt])
        · exact .inr (.inl (by simpa [List.cons_prefix_cons] using below))
        · exact .inr (.inr ⟨object, by simpa [List.cons_prefix_cons] using above,
            by simpa using proper⟩)
      · exact .inl found

theorem distinctKeys_membersOf {found : Option Json}
    (distinct : ∀ v, found = some v → v.distinctKeys = true) :
    (Json.obj (membersOf found)).distinctKeys = true := by
  unfold membersOf
  split
  · exact distinct _ rfl
  · rfl

theorem distinctKeys_setAt (written : value.distinctKeys = true) (path : List String)
    {fields : Assoc String Json} (distinct : (Json.obj fields).distinctKeys = true) :
    (Json.obj (setAt value path fields)).distinctKeys = true := by
  fun_induction setAt value path fields with
  | case1 fields => exact distinct
  | case2 name fields => exact Json.distinctKeys_insert distinct written name
  | case3 name rest fields inner ih =>
    have below := ih (distinctKeys_membersOf fun v => Json.distinctKeys_find? distinct)
    exact Json.distinctKeys_insert distinct below name

end Set

/-! Removal takes distinct keys: otherwise a second binding of the name would come to light. -/

theorem distinctKeys_unsetAt (path : List String) {fields : Assoc String Json}
    (distinct : (Json.obj fields).distinctKeys = true) :
    (Json.obj (unsetAt path fields)).distinctKeys = true := by
  fun_induction unsetAt path fields with
  | case1 fields => exact distinct
  | case2 name fields => exact Json.distinctKeys_erase distinct name
  | case3 name rest fields inner members found ih =>
    have below := ih (Json.distinctKeys_find? distinct found)
    exact Json.distinctKeys_insert distinct below name
  | case4 name rest fields inner plain => exact distinct

theorem membersOf_eq_nil {found : Option Json} (plain : ∀ members, found ≠ some (.obj members)) :
    membersOf found = [] := by
  unfold membersOf
  split
  · exact absurd rfl (plain _)
  · rfl

theorem lookupAt_unsetAt (path : List String) (named : path ≠ []) {fields : Assoc String Json}
    (distinct : (Json.obj fields).distinctKeys = true) :
    lookupAt path (.obj (unsetAt path fields)) = none := by
  fun_induction unsetAt path fields with
  | case1 fields => exact absurd rfl named
  | case2 name fields =>
    simp [lookupAt_obj, Assoc.find?_erase (Json.nodup_keys distinct)]
  | case3 name rest fields inner members found ih =>
    have below := Json.distinctKeys_find? distinct found
    simp [lookupAt_obj, Assoc.find?_insert, ih inner below]
  | case4 name rest fields inner plain =>
    obtain ⟨next, deeper, rfl⟩ := List.exists_cons_of_ne_nil inner
    rw [lookupAt_obj, bind_lookupAt, membersOf_eq_nil plain]
    rfl

theorem lookupAt_unsetAt_of_apart {p path : List String} (apart : Apart p path)
    {fields : Assoc String Json} (distinct : (Json.obj fields).distinctKeys = true) :
    lookupAt p (.obj (unsetAt path fields)) = lookupAt p (.obj fields) := by
  fun_induction unsetAt path fields generalizing p with
  | case1 fields => rfl
  | case2 name fields =>
    obtain ⟨other, more, rfl⟩ := apart.exists_cons
    rw [lookupAt_obj, lookupAt_obj, Assoc.find?_erase (Json.nodup_keys distinct), if_neg apart.head_ne]
  | case3 name rest fields inner members found ih =>
    obtain ⟨other, more, rfl⟩ := apart.exists_cons
    have below := Json.distinctKeys_find? distinct found
    rw [lookupAt_obj, lookupAt_obj, Assoc.find?_insert]
    split
    · rename_i same
      subst same
      rw [Option.bind_some, ih apart.tail below, found, Option.bind_some]
    · rfl
  | case4 name rest fields inner plain => rfl

/-- What is found after a removal was there before, or is an object that has taken the place of
another one. -/
theorem found_unsetAt {p path : List String} {fields : Assoc String Json} {v : Json}
    (distinct : (Json.obj fields).distinctKeys = true)
    (found : lookupAt p (.obj (unsetAt path fields)) = some v) :
    lookupAt p (.obj fields) = some v ∨
      (∃ inner, v = .obj inner) ∧ ∃ before, lookupAt p (.obj fields) = some (.obj before) := by
  cases p with
  | nil => exact .inr ⟨⟨_, (Option.some.inj found).symm⟩, fields, rfl⟩
  | cons other more =>
    fun_induction unsetAt path fields generalizing other more with
    | case1 fields => exact .inl found
    | case2 name fields =>
      rw [lookupAt_obj, Assoc.find?_erase (Json.nodup_keys distinct)] at found
      split at found
      · cases found
      · exact .inl found
    | case3 name rest fields inner members present ih =>
      have below := Json.distinctKeys_find? distinct present
      rw [lookupAt_obj, Assoc.find?_insert] at found
      split at found
      · rename_i same
        subst same
        rw [lookupAt_obj, present, Option.bind_some]
        rw [Option.bind_some] at found
        cases more with
        | nil => exact .inr ⟨⟨_, (Option.some.inj found).symm⟩, members, rfl⟩
        | cons next deeper => exact ih below next deeper found
      · exact .inl found
    | case4 name rest fields inner plain => exact .inl found

end BulkActions.Mapping
