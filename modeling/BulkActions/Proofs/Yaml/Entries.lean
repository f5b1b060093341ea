import BulkActions.Yaml.Merge

/-! The entries of a mapping apart from some names. Looking up another key, merging and removing see
to each side of this division alone, although removing an entry moves the last one. -/

namespace BulkActions.Yaml

/-- The signature of a text begins like that of no other value. -/
theorem signature_ne_text {v : Yaml} (other : ∀ s, v ≠ text s) (name : String) :
    v.signature ≠ (text name).signature := by
  intro same
  have plain (s : String) : toString s = s := rfl
  have heads := congrArg (fun s : String => s.toList.head?) same
  cases v with
  | scalar s =>
    cases s with
    | null => simp [signature, text, Scalar.signature] at heads
    | truth b => cases b <;> simp [signature, text, Scalar.signature] at heads
    | number n => cases n <;> simp [signature, text, Scalar.signature, plain] at heads
    | text s => exact other s rfl
  | sequence items => simp [signature, text, Scalar.signature, plain] at heads
  | mapping entries => simp [signature, text, Scalar.signature] at heads
  | tagged tag v => simp [signature, text, Scalar.signature] at heads

/-- A value that is no text is no text as a key either. -/
theorem not_isSameKey_of_not_text {v : Yaml} (other : ∀ s, v ≠ text s) (name : String) :
    v.isSameKey (text name) = false ∧ (text name).isSameKey v = false := by
  have differs := signature_ne_text other name
  have forth : v.isSameKey (text name) = (v.signature == (text name).signature) := by
    cases v with
    | scalar s =>
      cases s with
      | text s => exact absurd rfl (other s)
      | _ => rfl
    | _ => rfl
  have back : (text name).isSameKey v = ((text name).signature == v.signature) := by
    cases v with
    | scalar s =>
      cases s with
      | text s => exact absurd rfl (other s)
      | _ => rfl
    | _ => rfl
  rw [forth, back]
  simp [differs, differs.symm]

/-- A text is the same key as itself and nothing else. -/
theorem isSameKey_text_iff (v : Yaml) (name : String) :
    (v.isSameKey (text name) = true ↔ v = text name) ∧
      ((text name).isSameKey v = true ↔ v = text name) := by
  by_cases other : ∀ s, v ≠ text s
  · simp [not_isSameKey_of_not_text other name, other name]
  · obtain ⟨s, rfl⟩ := Classical.not_forall_not.mp other
    simp only [isSameKey, text, beq_iff_eq, Yaml.scalar.injEq, Scalar.text.injEq]
    exact ⟨trivial, eq_comm⟩

namespace Entries

variable {names : List String} {entries : Entries} {key value : Yaml}

/-- The entries whose keys are none of these names. -/
def without (names : List String) (entries : Entries) : Entries :=
  entries.filter fun entry => entry.1 ∉ names.map text

theorem without_cons_of_mem {entry : Yaml × Yaml} (named : entry.1 ∈ names.map text) :
    without names (entry :: entries) = without names entries :=
  List.filter_cons_of_neg (by simpa using named)

theorem without_cons_of_not_mem {entry : Yaml × Yaml} (kept : entry.1 ∉ names.map text) :
    without names (entry :: entries) = entry :: without names entries :=
  List.filter_cons_of_pos (by simpa using kept)

/-- A key that is none of the names is not the same key as one of them. -/
theorem not_isSameKey_of_mem {other : Yaml} (named : other ∈ names.map text)
    (kept : key ∉ names.map text) : other.isSameKey key = false := by
  obtain ⟨name, _, rfl⟩ := List.mem_map.mp named
  rw [Bool.eq_false_iff]
  intro same
  rw [(isSameKey_text_iff key name).2.mp same] at kept
  exact kept named

theorem find?_without (kept : key ∉ names.map text) :
    find? (without names entries) key = find? entries key := by
  induction entries with
  | nil => rfl
  | cons entry rest ih =>
    obtain ⟨other, old⟩ := entry
    by_cases named : other ∈ names.map text
    · have differs := not_isSameKey_of_mem named kept
      rw [without_cons_of_mem named, ih]
      simp [find?, differs]
    · rw [without_cons_of_not_mem named]
      by_cases same : other.isSameKey key = true
      · simp [find?, same]
      · simpa [find?, same] using ih

theorem without_insert_of_not_mem (kept : key ∉ names.map text) (value : Yaml) :
    without names (insert entries key value) = insert (without names entries) key value := by
  induction entries with
  | nil => rw [insert, without_cons_of_not_mem kept]; rfl
  | cons entry rest ih =>
    obtain ⟨other, old⟩ := entry
    by_cases named : other ∈ names.map text
    · have differs := not_isSameKey_of_mem named kept
      rw [insert, if_neg (by simp [differs]), without_cons_of_mem named, ih,
        without_cons_of_mem named]
    · rw [without_cons_of_not_mem named]
      by_cases same : other.isSameKey key = true
      · rw [insert, if_pos same, insert, if_pos same, without_cons_of_not_mem named]
      · rw [insert, if_neg same, insert, if_neg same, without_cons_of_not_mem named, ih]

theorem without_insert_of_mem (named : key ∈ names.map text) (value : Yaml) :
    without names (insert entries key value) = without names entries := by
  induction entries with
  | nil => rw [insert, without_cons_of_mem named]
  | cons entry rest ih =>
    obtain ⟨other, old⟩ := entry
    rw [insert]
    split
    · rename_i same
      obtain ⟨name, _, rfl⟩ := List.mem_map.mp named
      cases (isSameKey_text_iff other name).1.mp same
      rw [without_cons_of_mem named, without_cons_of_mem named]
    · by_cases also : other ∈ names.map text
      · rw [without_cons_of_mem also, without_cons_of_mem also, ih]
      · rw [without_cons_of_not_mem also, without_cons_of_not_mem also, ih]

/-- Merging sees to the entries of other keys alone. -/
theorem without_mergeEntries (below above : Entries) :
    without names (mergeEntries below above) =
      mergeEntries (without names below) (without names above) := by
  induction above generalizing below with
  | nil => rfl
  | cons entry rest ih =>
    obtain ⟨key, value⟩ := entry
    by_cases named : key ∈ names.map text
    · rw [without_cons_of_mem named, mergeEntries]
      split <;> rw [ih, without_insert_of_mem named]
    · rw [without_cons_of_not_mem named, mergeEntries, mergeEntries, find?_without named]
      cases find? below key with
      | none => rw [ih, without_insert_of_not_mem named]
      | some old => rw [ih, without_insert_of_not_mem named]

/-- Up to the order, removing an entry drops the first one with the key. -/
theorem erase_perm (entries : Entries) (key : Yaml) :
    (erase entries key).Perm (entries.eraseP fun entry => entry.1.isSameKey key) := by
  induction entries with
  | nil => exact .nil
  | cons entry rest ih =>
    obtain ⟨other, value⟩ := entry
    by_cases same : other.isSameKey key = true
    · rw [List.eraseP_cons_of_pos (by simpa using same), erase, if_pos same]
      cases ending : rest.getLast? with
      | none => simp [List.getLast?_eq_none_iff.mp ending]
      | some last =>
        obtain ⟨front, rfl⟩ := List.getLast?_eq_some_iff.mp ending
        simpa using (List.perm_append_singleton last front).symm
    · rw [List.eraseP_cons_of_neg (by simpa using same), erase, if_neg same]
      exact ih.cons _

/-- Removing one of the names moves the other entries at most. -/
theorem without_erase {name : String} (named : name ∈ names) (entries : Entries) :
    (without names (erase entries (text name))).Perm (without names entries) := by
  have dropped : without names (entries.eraseP fun entry => entry.1.isSameKey (text name)) =
      without names entries := by
    induction entries with
    | nil => rfl
    | cons entry rest ih =>
      by_cases same : entry.1.isSameKey (text name) = true
      · have own : entry.1 ∈ names.map text := by
          rw [(isSameKey_text_iff entry.1 name).1.mp same]
          exact List.mem_map_of_mem named
        rw [List.eraseP_cons_of_pos (by simpa using same), without_cons_of_mem own]
      · rw [List.eraseP_cons_of_neg (by simpa using same)]
        by_cases also : entry.1 ∈ names.map text
        · rw [without_cons_of_mem also, without_cons_of_mem also, ih]
        · rw [without_cons_of_not_mem also, without_cons_of_not_mem also, ih]
  exact ((erase_perm entries (text name)).filter _).trans (.of_eq dropped)

/-- Removing some of the names one after the other moves the other entries at most. -/
theorem without_foldl_erase (gone : List String) (named : ∀ name ∈ gone, name ∈ names)
    (entries : Entries) :
    (without names (gone.foldl (fun left name => erase left (text name)) entries)).Perm
      (without names entries) := by
  induction gone generalizing entries with
  | nil => exact .refl _
  | cons name rest ih =>
    have later := ih (fun other member => named other (List.mem_cons_of_mem _ member))
      (erase entries (text name))
    exact later.trans (without_erase (named name List.mem_cons_self) entries)

end Entries

end BulkActions.Yaml
