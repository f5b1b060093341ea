import BulkActions.Assoc

/-! Bindings with distinct keys. Such a list is a look-up table, and removing a binding touches no
other one, although the last binding moves. -/

namespace BulkActions.Assoc

variable {κ α : Type} [DecidableEq κ]

theorem mem_of_find? {bindings : Assoc κ α} {key : κ} {value : α}
    (found : bindings.find? key = some value) : (key, value) ∈ bindings := by
  induction bindings with
  | nil => simp [find?] at found
  | cons binding rest ih =>
    obtain ⟨other, old⟩ := binding
    rw [find?_cons] at found
    split at found
    · rename_i same
      rw [same, ← Option.some.inj found]
      exact List.mem_cons_self
    · exact List.mem_cons_of_mem _ (ih found)

theorem find?_of_mem {bindings : Assoc κ α} (distinct : (keys bindings).Nodup) {key : κ} {value : α}
    (member : (key, value) ∈ bindings) : bindings.find? key = some value := by
  induction bindings with
  | nil => cases member
  | cons binding rest ih =>
    obtain ⟨other, old⟩ := binding
    obtain ⟨fresh, later⟩ := List.nodup_cons.mp distinct
    rw [find?_cons]
    rcases List.mem_cons.mp member with same | tail
    · cases same
      simp
    · have differs : key ≠ other := by
        rintro rfl
        exact fresh (List.mem_map.mpr ⟨_, tail, rfl⟩)
      rw [if_neg differs]
      exact ih later tail

theorem find?_eq_some_iff {bindings : Assoc κ α} (distinct : (keys bindings).Nodup) (key : κ)
    (value : α) : bindings.find? key = some value ↔ (key, value) ∈ bindings :=
  ⟨mem_of_find?, find?_of_mem distinct⟩

theorem mem_keys_iff {bindings : Assoc κ α} (distinct : (keys bindings).Nodup) (key : κ) :
    key ∈ keys bindings ↔ ∃ value, bindings.find? key = some value := by
  simp [keys, find?_eq_some_iff distinct]

theorem keys_insert (bindings : Assoc κ α) (key : κ) (value : α) :
    keys (bindings.insert key value) =
      if key ∈ keys bindings then keys bindings else keys bindings ++ [key] := by
  induction bindings with
  | nil => simp [insert, keys]
  | cons binding rest ih =>
    obtain ⟨other, old⟩ := binding
    by_cases same : other = key
    · subst same
      simp [insert, keys]
    · have differs : key ≠ other := fun equal => same equal.symm
      simp only [keys] at ih
      simp only [insert, if_neg same, keys, List.map_cons, List.mem_cons, differs, false_or, ih]
      by_cases member : key ∈ rest.map Prod.fst <;> simp [member]

theorem insert_of_not_mem {bindings : Assoc κ α} {key : κ} (fresh : key ∉ bindings.keys)
    (value : α) : bindings.insert key value = bindings ++ [(key, value)] := by
  induction bindings with
  | nil => rfl
  | cons binding rest ih =>
    obtain ⟨other, old⟩ := binding
    simp only [keys, List.map_cons, List.mem_cons, not_or] at fresh
    have later := ih fresh.2
    simp [insert, Ne.symm fresh.1, later]

theorem nodup_keys_insert {bindings : Assoc κ α} (distinct : (keys bindings).Nodup) (key : κ)
    (value : α) : (keys (bindings.insert key value)).Nodup := by
  rw [keys_insert]
  split
  · exact distinct
  · rename_i fresh
    have apart : ∀ other ∈ keys bindings, other ≠ key := fun other member same =>
      fresh (same ▸ member)
    simpa [List.nodup_append, distinct] using apart

theorem mem_insert {bindings : Assoc κ α} {key : κ} {value : α} {binding : κ × α}
    (member : binding ∈ bindings.insert key value) :
    binding ∈ bindings ∨ binding = (key, value) := by
  induction bindings with
  | nil => exact .inr (List.mem_singleton.mp member)
  | cons head rest ih =>
    obtain ⟨other, old⟩ := head
    by_cases same : other = key
    · subst same
      simp only [insert, if_true, List.mem_cons] at member
      rcases member with written | kept
      · exact .inr written
      · exact .inl (List.mem_cons_of_mem _ kept)
    · simp only [insert, if_neg same, List.mem_cons] at member
      rcases member with head | later
      · exact .inl (head ▸ List.mem_cons_self)
      · exact (ih later).imp_left (List.mem_cons_of_mem _)

private theorem foldl_insert (bindings sofar : Assoc κ α) (distinct : (keys sofar).Nodup) :
    (keys (bindings.foldl (fun kept b => insert kept b.1 b.2) sofar)).Nodup ∧
      ∀ binding ∈ bindings.foldl (fun kept b => insert kept b.1 b.2) sofar,
        binding ∈ sofar ∨ binding ∈ bindings := by
  induction bindings generalizing sofar with
  | nil => exact ⟨distinct, fun binding member => .inl member⟩
  | cons head rest ih =>
    obtain ⟨nodup, origin⟩ := ih _ (nodup_keys_insert distinct head.1 head.2)
    refine ⟨nodup, fun binding member => ?_⟩
    rcases origin binding member with early | later
    · rcases mem_insert early with old | new
      · exact .inl old
      · exact .inr (new ▸ List.mem_cons_self)
    · exact .inr (List.mem_cons_of_mem _ later)

theorem nodup_keys_ofList (bindings : List (κ × α)) : (keys (ofList bindings)).Nodup :=
  (foldl_insert bindings [] List.nodup_nil).1

private theorem foldl_insert_of_nodup {later sofar : Assoc κ α}
    (distinct : (keys (sofar ++ later)).Nodup) :
    later.foldl (fun kept b => insert kept b.1 b.2) sofar = sofar ++ later := by
  induction later generalizing sofar with
  | nil => simp
  | cons binding rest ih =>
    have fresh : binding.1 ∉ keys sofar := by
      simp only [keys, List.map_append, List.map_cons] at distinct
      intro member
      exact (List.nodup_append.mp distinct).2.2 _ member _ List.mem_cons_self rfl
    have next : (keys ((sofar ++ [(binding.1, binding.2)]) ++ rest)).Nodup := by
      simpa using distinct
    rw [List.foldl_cons, insert_of_not_mem fresh, ih next]
    simp

/-- Bindings with distinct keys stay as they are. -/
theorem ofList_of_nodup {bindings : List (κ × α)} (distinct : (keys bindings).Nodup) :
    ofList bindings = bindings := by
  have appended : ofList bindings = [] ++ bindings := foldl_insert_of_nodup distinct
  rw [appended, List.nil_append]

theorem mem_of_mem_ofList {bindings : List (κ × α)} {binding : κ × α}
    (member : binding ∈ ofList bindings) : binding ∈ bindings :=
  ((foldl_insert bindings [] List.nodup_nil).2 binding member).resolve_left (by simp)

/-- Up to the order, removing a binding drops the first one with the key. -/
theorem erase_perm (bindings : Assoc κ α) (key : κ) :
    (bindings.erase key).Perm (bindings.eraseP fun binding => binding.1 = key) := by
  induction bindings with
  | nil => exact .nil
  | cons binding rest ih =>
    obtain ⟨other, value⟩ := binding
    by_cases same : other = key
    · rw [List.eraseP_cons_of_pos (by simpa using same)]
      simp only [erase, if_pos same]
      cases ending : rest.getLast? with
      | none => simp [List.getLast?_eq_none_iff.mp ending]
      | some last =>
        obtain ⟨front, rfl⟩ := List.getLast?_eq_some_iff.mp ending
        simpa using (List.perm_append_singleton last front).symm
    · rw [List.eraseP_cons_of_neg (by simpa using same)]
      simp only [erase, if_neg same]
      exact ih.cons _

theorem mem_of_mem_erase {bindings : Assoc κ α} {key : κ} {binding : κ × α}
    (member : binding ∈ bindings.erase key) : binding ∈ bindings :=
  List.mem_of_mem_eraseP ((erase_perm bindings key).mem_iff.mp member)

theorem nodup_keys_erase {bindings : Assoc κ α} (distinct : (keys bindings).Nodup) (key : κ) :
    (keys (bindings.erase key)).Nodup := by
  refine (((erase_perm bindings key).map Prod.fst).nodup_iff).mpr ?_
  exact distinct.sublist (List.eraseP_sublist.map Prod.fst)

private theorem key_not_mem_eraseP {bindings : Assoc κ α} (distinct : (keys bindings).Nodup)
    {key : κ} {value : α} : (key, value) ∉ bindings.eraseP fun binding => binding.1 = key := by
  induction bindings with
  | nil => simp
  | cons head rest ih =>
    obtain ⟨other, old⟩ := head
    obtain ⟨fresh, later⟩ := List.nodup_cons.mp distinct
    by_cases same : other = key
    · subst same
      rw [List.eraseP_cons_of_pos (by simp)]
      exact fun member => fresh (List.mem_map.mpr ⟨_, member, rfl⟩)
    · rw [List.eraseP_cons_of_neg (by simpa using same)]
      intro member
      rcases List.mem_cons.mp member with head | tail
      · exact same (Prod.mk.inj head).1.symm
      · exact ih later tail

theorem find?_erase {bindings : Assoc κ α} (distinct : (keys bindings).Nodup) (key other : κ) :
    (bindings.erase key).find? other = if other = key then none else bindings.find? other := by
  have kept := nodup_keys_erase distinct key
  apply Option.ext
  intro value
  rw [find?_eq_some_iff kept, (erase_perm bindings key).mem_iff]
  split
  · rename_i same
    subst same
    simpa using key_not_mem_eraseP distinct
  · rename_i differs
    rw [List.mem_eraseP_of_neg (by simpa using differs), find?_eq_some_iff distinct]

end BulkActions.Assoc
