import BulkActions.Proofs.Yaml.Entries

/-! Mappings whose keys are distinct at every depth, and what looking up and inserting do to
entries. To be the same key is an equivalence, so that a look-up does not tell two such keys apart. -/

namespace BulkActions.Yaml

/-- What decides which key a value is: a text by itself, any other value by its signature. -/
def keyIdentity : Yaml → String ⊕ String
  | .scalar (.text s) => .inl s
  | v => .inr v.signature

theorem keyIdentity_of_not_text {v : Yaml} (other : ∀ s, v ≠ text s) :
    v.keyIdentity = .inr v.signature := by
  unfold keyIdentity
  split
  · exact absurd rfl (other _)
  · rfl

theorem isSameKey_of_not_text {v w : Yaml} (other : ∀ s, v ≠ text s) :
    v.isSameKey w = (v.signature == w.signature) := by
  unfold isSameKey
  split
  · exact absurd rfl (other _)
  · rfl

theorem isSameKey_iff (v w : Yaml) :
    v.isSameKey w = true ↔ v.keyIdentity = w.keyIdentity := by
  by_cases plain : ∀ s, v ≠ text s
  · by_cases other : ∀ s, w ≠ text s
    · rw [isSameKey_of_not_text plain, keyIdentity_of_not_text plain, keyIdentity_of_not_text other]
      simp
    · obtain ⟨s, rfl⟩ := Classical.not_forall_not.mp other
      rw [(isSameKey_text_iff v s).1, keyIdentity_of_not_text plain]
      exact iff_of_false (plain s) Sum.inr_ne_inl
  · obtain ⟨s, rfl⟩ := Classical.not_forall_not.mp plain
    rw [(isSameKey_text_iff w s).2]
    by_cases other : ∀ s, w ≠ text s
    · rw [keyIdentity_of_not_text other]
      exact iff_of_false (other s) Sum.inl_ne_inr
    · obtain ⟨t, rfl⟩ := Classical.not_forall_not.mp other
      simp [keyIdentity, text, eq_comm]

mutual

/-- Whether no mapping, however deep, has two entries of one key. -/
def distinctKeys : Yaml → Bool
  | .scalar _ => true
  | .sequence items => distinctItems items
  | .mapping entries => distinctEntries entries
  | .tagged _ v => v.distinctKeys

def distinctItems : List Yaml → Bool
  | [] => true
  | v :: rest => v.distinctKeys && distinctItems rest

def distinctEntries : List (Yaml × Yaml) → Bool
  | [] => true
  | (key, v) :: rest =>
    (Entries.find? rest key).isNone && v.distinctKeys && distinctEntries rest

end

theorem distinctItems_iff (items : List Yaml) :
    distinctItems items = true ↔ ∀ v ∈ items, v.distinctKeys = true := by
  induction items with
  | nil => simp [distinctItems]
  | cons v rest ih => simp [distinctItems, ih]

namespace Entries

variable {entries : Entries} {key other value : Yaml}

def keys (entries : Entries) : List Yaml := entries.map Prod.fst

theorem find?_cons (entry : Yaml × Yaml) (rest : Entries) (key : Yaml) :
    find? (entry :: rest) key =
      if entry.1.keyIdentity = key.keyIdentity then some entry.2 else find? rest key := by
  unfold find?
  rw [List.find?_cons]
  simp only [← isSameKey_iff]
  cases entry.1.isSameKey key <;> rfl

theorem insert_cons (entry : Yaml × Yaml) (rest : Entries) (key value : Yaml) :
    insert (entry :: rest) key value =
      if entry.1.keyIdentity = key.keyIdentity then (entry.1, value) :: rest
      else entry :: insert rest key value := by
  simp only [insert, isSameKey_iff]

theorem find?_congr (same : key.keyIdentity = other.keyIdentity) (entries : Entries) :
    find? entries key = find? entries other := by
  induction entries with
  | nil => rfl
  | cons entry rest ih => rw [find?_cons, find?_cons, same, ih]

theorem find?_insert (entries : Entries) (key value other : Yaml) :
    find? (insert entries key value) other =
      if key.keyIdentity = other.keyIdentity then some value else find? entries other := by
  induction entries with
  | nil => exact find?_cons (key, value) [] other
  | cons entry rest ih =>
    rw [insert_cons]
    by_cases own : entry.1.keyIdentity = key.keyIdentity
    · rw [if_pos own, find?_cons, find?_cons, ← own]
      split <;> rfl
    · rw [if_neg own, find?_cons, find?_cons, ih]
      by_cases found : entry.1.keyIdentity = other.keyIdentity
      · rw [if_pos found, if_pos found, if_neg fun same => own (found.trans same.symm)]
      · rw [if_neg found, if_neg found]

theorem insert_of_find? {entries : Entries} {key value : Yaml}
    (found : find? entries key = some value) : insert entries key value = entries := by
  induction entries with
  | nil => cases found
  | cons entry rest ih =>
    rw [find?_cons] at found
    rw [insert_cons]
    split
    · rename_i own
      rw [if_pos own] at found
      rw [← Option.some.inj found]
    · rename_i differs
      rw [if_neg differs] at found
      rw [ih found]

theorem keys_insert (entries : Entries) (key value : Yaml) :
    keys (insert entries key value) =
      if (find? entries key).isSome then keys entries else keys entries ++ [key] := by
  induction entries with
  | nil => rfl
  | cons entry rest ih =>
    rw [insert_cons, find?_cons]
    by_cases own : entry.1.keyIdentity = key.keyIdentity
    · rw [if_pos own, if_pos own]
      rfl
    · rw [if_neg own, if_neg own]
      have later := congrArg (entry.1 :: ·) ih
      simp only [keys, List.map_cons] at later ⊢
      rw [later]
      split <;> rfl

theorem find?_isSome_iff (entries : Entries) (key : Yaml) :
    (find? entries key).isSome = true ↔ ∃ name ∈ keys entries, name.keyIdentity = key.keyIdentity := by
  induction entries with
  | nil => simp [keys, find?]
  | cons entry rest ih =>
    rw [find?_cons]
    by_cases own : entry.1.keyIdentity = key.keyIdentity
    · simp [keys, own]
    · simpa [keys, own] using ih

theorem distinctEntries_cons_iff (entry : Yaml × Yaml) (rest : Entries) :
    distinctEntries (entry :: rest) = true ↔
      find? rest entry.1 = none ∧ entry.2.distinctKeys = true ∧ distinctEntries rest = true := by
  simp [distinctEntries, and_assoc]

/-- Entries with distinct keys are a look-up table. -/
theorem find?_of_mem {entries : Entries} (distinct : distinctEntries entries = true)
    (member : (key, value) ∈ entries) : find? entries key = some value := by
  induction entries with
  | nil => cases member
  | cons entry rest ih =>
    obtain ⟨fresh, _, later⟩ := (distinctEntries_cons_iff entry rest).mp distinct
    rw [find?_cons]
    rcases List.mem_cons.mp member with rfl | inside
    · exact if_pos rfl
    · have found := ih later inside
      split
      · rename_i same
        rw [find?_congr same, found] at fresh
        cases fresh
      · exact found

theorem distinctKeys_of_find? {entries : Entries} (distinct : distinctEntries entries = true)
    (found : find? entries key = some value) : value.distinctKeys = true := by
  induction entries with
  | nil => cases found
  | cons entry rest ih =>
    obtain ⟨_, own, later⟩ := (distinctEntries_cons_iff entry rest).mp distinct
    rw [find?_cons] at found
    split at found
    · rwa [← Option.some.inj found]
    · exact ih later found

theorem distinctEntries_insert {entries : Entries} (distinct : distinctEntries entries = true)
    (sound : value.distinctKeys = true) (key : Yaml) :
    distinctEntries (insert entries key value) = true := by
  induction entries with
  | nil => exact (distinctEntries_cons_iff _ _).mpr ⟨rfl, sound, rfl⟩
  | cons entry rest ih =>
    obtain ⟨fresh, own, later⟩ := (distinctEntries_cons_iff entry rest).mp distinct
    rw [insert_cons]
    split
    · exact (distinctEntries_cons_iff _ _).mpr ⟨fresh, sound, later⟩
    · rename_i differs
      refine (distinctEntries_cons_iff _ _).mpr ⟨?_, own, ih later⟩
      rw [find?_insert, if_neg fun same => differs same.symm, fresh]

theorem distinctEntries_iff (entries : Entries) :
    distinctEntries entries = true ↔
      ((keys entries).map keyIdentity).Nodup ∧ ∀ entry ∈ entries, entry.2.distinctKeys = true := by
  induction entries with
  | nil => simp [distinctEntries, keys]
  | cons entry rest ih =>
    have fresh : find? rest entry.1 = none ↔
        entry.1.keyIdentity ∉ (keys rest).map keyIdentity := by
      rw [← Option.not_isSome_iff_eq_none, find?_isSome_iff, List.mem_map]
    rw [distinctEntries_cons_iff, ih, fresh, keys, keys, List.map_cons, List.map_cons,
      List.nodup_cons, List.forall_mem_cons]
    constructor
    · rintro ⟨apart, own, later, values⟩
      exact ⟨⟨apart, later⟩, own, values⟩
    · rintro ⟨⟨apart, later⟩, own, values⟩
      exact ⟨apart, own, later, values⟩

/-- The order of entries does not count. -/
theorem distinctEntries_reverse {entries : Entries} (distinct : distinctEntries entries = true) :
    distinctEntries entries.reverse = true := by
  obtain ⟨apart, values⟩ := (distinctEntries_iff entries).mp distinct
  refine (distinctEntries_iff _).mpr ⟨?_, fun entry member => ?_⟩
  · rw [keys, List.map_reverse, List.map_reverse]
    exact (List.reverse_perm _).nodup_iff.mpr apart
  · exact values entry (List.mem_reverse.mp member)

end Entries

theorem distinctKeys_of_get? {key w : Yaml} :
    {v : Yaml} → v.distinctKeys = true → v.get? key = some w → w.distinctKeys = true
  | .mapping _, distinct, found => Entries.distinctKeys_of_find? distinct found
  | .tagged _ v, distinct, found => distinctKeys_of_get? (v := v) distinct found
  | .scalar _, _, found => nomatch found
  | .sequence _, _, found => nomatch found

end BulkActions.Yaml
