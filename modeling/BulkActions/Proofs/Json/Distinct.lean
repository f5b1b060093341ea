import BulkActions.Json.Parser
import BulkActions.Proofs.Json.Bindings

/-! Documents whose objects have distinct keys at every depth. Every document that is read is one,
and so is every part of one. -/

namespace BulkActions.Json

mutual

/-- Whether no object, however deep, has two members of one name. -/
def distinctKeys : Json → Bool
  | .arr items => distinctItems items
  | .obj fields => decide (Assoc.keys fields).Nodup && distinctFields fields
  | _ => true

def distinctItems : List Json → Bool
  | [] => true
  | v :: rest => v.distinctKeys && distinctItems rest

def distinctFields : List (String × Json) → Bool
  | [] => true
  | (_, v) :: rest => v.distinctKeys && distinctFields rest

end

theorem distinctItems_iff (items : List Json) :
    distinctItems items = true ↔ ∀ v ∈ items, v.distinctKeys = true := by
  induction items with
  | nil => simp [distinctItems]
  | cons v rest ih => simp [distinctItems, ih]

theorem distinctFields_iff (fields : List (String × Json)) :
    distinctFields fields = true ↔ ∀ binding ∈ fields, binding.2.distinctKeys = true := by
  induction fields with
  | nil => simp [distinctFields]
  | cons binding rest ih => simp [distinctFields, ih]

theorem distinctKeys_arr (items : List Json) :
    (arr items).distinctKeys = true ↔ ∀ v ∈ items, v.distinctKeys = true := by
  rw [distinctKeys, distinctItems_iff]

theorem distinctKeys_obj (fields : Assoc String Json) :
    (obj fields).distinctKeys = true ↔
      (Assoc.keys fields).Nodup ∧ ∀ binding ∈ fields, binding.2.distinctKeys = true := by
  rw [distinctKeys, Bool.and_eq_true, decide_eq_true_iff, distinctFields_iff]

theorem nodup_keys {fields : Assoc String Json} (distinct : (obj fields).distinctKeys = true) :
    (Assoc.keys fields).Nodup :=
  ((distinctKeys_obj fields).mp distinct).1

theorem distinctKeys_find? {fields : Assoc String Json} (distinct : (obj fields).distinctKeys = true)
    {name : String} {v : Json} (found : fields.find? name = some v) : v.distinctKeys = true :=
  ((distinctKeys_obj fields).mp distinct).2 _ (Assoc.mem_of_find? found)

theorem distinctKeys_insert {fields : Assoc String Json}
    (distinct : (obj fields).distinctKeys = true) {v : Json} (value : v.distinctKeys = true)
    (name : String) : (obj (Assoc.insert fields name v)).distinctKeys = true := by
  obtain ⟨nodup, members⟩ := (distinctKeys_obj fields).mp distinct
  refine (distinctKeys_obj _).mpr ⟨Assoc.nodup_keys_insert nodup name v, fun binding member => ?_⟩
  rcases Assoc.mem_insert member with old | new
  · exact members binding old
  · exact new ▸ value

theorem distinctKeys_erase {fields : Assoc String Json}
    (distinct : (obj fields).distinctKeys = true) (name : String) :
    (obj (Assoc.erase fields name)).distinctKeys = true := by
  obtain ⟨nodup, members⟩ := (distinctKeys_obj fields).mp distinct
  exact (distinctKeys_obj _).mpr ⟨Assoc.nodup_keys_erase nodup name,
    fun binding member => members binding (Assoc.mem_of_mem_erase member)⟩

theorem distinctKeys_ofList {fields : List (String × Json)}
    (members : ∀ binding ∈ fields, binding.2.distinctKeys = true) :
    (obj (Assoc.ofList fields)).distinctKeys = true :=
  (distinctKeys_obj _).mpr ⟨Assoc.nodup_keys_ofList fields,
    fun binding member => members binding (Assoc.mem_of_mem_ofList member)⟩

private theorem map_eq_ok {ε α β : Type} {f : α → β} {x : Except ε α} {b : β}
    (mapped : x.map f = .ok b) : ∃ a, x = .ok a ∧ f a = b := by
  cases x with
  | error e => cases mapped
  | ok a => exact ⟨a, rfl, by simpa [Except.map] using mapped⟩

private theorem word_eq_ok {letters cs rest : List Char} {value v : Json}
    (read : word letters value cs = .ok (v, rest)) : v = value := by
  induction letters generalizing cs with
  | nil => cases read; rfl
  | cons w ws ih =>
    cases cs with
    | nil => cases read
    | cons c cs =>
      rw [word] at read
      split at read
      · exact ih read
      · cases read

/-- What the readers of values, items and members give back with a unit of fuel each. -/
private structure ReadsDistinct (fuel : Nat) : Prop where
  value : ∀ {depth cs v rest}, value fuel depth cs = .ok (v, rest) → v.distinctKeys = true
  items : ∀ {depth first cs vs rest}, items fuel depth first cs = .ok (vs, rest) →
    ∀ v ∈ vs, v.distinctKeys = true
  item : ∀ {depth cs vs rest}, item fuel depth cs = .ok (vs, rest) →
    ∀ v ∈ vs, v.distinctKeys = true
  members : ∀ {depth first cs ms rest}, members fuel depth first cs = .ok (ms, rest) →
    ∀ binding ∈ ms, binding.2.distinctKeys = true
  member : ∀ {depth cs ms rest}, member fuel depth cs = .ok (ms, rest) →
    ∀ binding ∈ ms, binding.2.distinctKeys = true

namespace ReadsDistinct

variable {fuel : Nat}

private theorem value_succ (reads : ReadsDistinct fuel) {depth : Nat} {cs rest : List Char}
    {v : Json} (read : Json.value (fuel + 1) depth cs = .ok (v, rest)) :
    v.distinctKeys = true := by
  rw [Json.value] at read
  split at read
  · cases read
  · rw [word_eq_ok read]; rfl
  · rw [word_eq_ok read]; rfl
  · rw [word_eq_ok read]; rfl
  · obtain ⟨⟨n, left⟩, _, same⟩ := map_eq_ok read
    cases same; rfl
  · obtain ⟨⟨text, left⟩, _, same⟩ := map_eq_ok read
    cases same; rfl
  · split at read
    · cases read
    · obtain ⟨⟨vs, left⟩, inner, same⟩ := map_eq_ok read
      cases same
      exact (distinctKeys_arr vs).mpr (reads.items inner)
  · split at read
    · cases read
    · obtain ⟨⟨ms, left⟩, inner, same⟩ := map_eq_ok read
      cases same
      exact distinctKeys_ofList (reads.members inner)
  · split at read
    · obtain ⟨⟨n, left⟩, _, same⟩ := map_eq_ok read
      cases same; rfl
    · cases read

private theorem items_succ (reads : ReadsDistinct fuel) {depth : Nat} {first : Bool}
    {cs rest : List Char} {vs : List Json}
    (read : Json.items (fuel + 1) depth first cs = .ok (vs, rest)) :
    ∀ v ∈ vs, v.distinctKeys = true := by
  rw [Json.items] at read
  split at read
  · cases read
  · cases read; simp
  · split at read
    · exact reads.item read
    · split at read
      · split at read
        · cases read
        · cases read
        · exact reads.item read
      · cases read

private theorem item_succ (reads : ReadsDistinct fuel) {depth : Nat} {cs rest : List Char}
    {vs : List Json} (read : Json.item (fuel + 1) depth cs = .ok (vs, rest)) :
    ∀ v ∈ vs, v.distinctKeys = true := by
  rw [Json.item] at read
  split at read
  · cases read
  · rename_i head left first
    obtain ⟨⟨later, left⟩, next, same⟩ := map_eq_ok read
    cases same
    exact List.forall_mem_cons.mpr ⟨reads.value first, reads.items next⟩

private theorem members_succ (reads : ReadsDistinct fuel) {depth : Nat} {first : Bool}
    {cs rest : List Char} {ms : List (String × Json)}
    (read : Json.members (fuel + 1) depth first cs = .ok (ms, rest)) :
    ∀ binding ∈ ms, binding.2.distinctKeys = true := by
  rw [Json.members] at read
  split at read
  · cases read
  · cases read; simp
  · split at read
    · split at read
      · exact reads.member read
      · cases read
    · split at read
      · split at read
        · cases read
        · exact reads.member read
        · cases read
        · cases read
      · cases read

private theorem member_succ (reads : ReadsDistinct fuel) {depth : Nat} {cs rest : List Char}
    {ms : List (String × Json)} (read : Json.member (fuel + 1) depth cs = .ok (ms, rest)) :
    ∀ binding ∈ ms, binding.2.distinctKeys = true := by
  rw [Json.member] at read
  split at read
  · cases read
  · split at read
    · cases read
    · split at read
      · cases read
      · rename_i head left first
        obtain ⟨⟨later, left⟩, next, same⟩ := map_eq_ok read
        cases same
        exact List.forall_mem_cons.mpr ⟨reads.value first, reads.members next⟩
    · cases read

end ReadsDistinct

private theorem readsDistinct (fuel : Nat) : ReadsDistinct fuel := by
  induction fuel with
  | zero =>
    constructor
    case value => intro _ _ _ _ read; rw [Json.value] at read; cases read
    case items => intro _ _ _ _ _ read; rw [Json.items] at read; cases read
    case item => intro _ _ _ _ read; rw [Json.item] at read; cases read
    case members => intro _ _ _ _ _ read; rw [Json.members] at read; cases read
    case member => intro _ _ _ _ read; rw [Json.member] at read; cases read
  | succ fuel reads =>
    exact ⟨reads.value_succ, reads.items_succ, reads.item_succ, reads.members_succ,
      reads.member_succ⟩

theorem document_distinctKeys {text : List Char} {v : Json} (read : document text = .ok v) :
    v.distinctKeys = true := by
  rw [document] at read
  split at read
  · cases read
  · rename_i found
    split at read
    · cases read
      exact (readsDistinct _).value found
    · cases read

theorem parse?_distinctKeys {text : String} {v : Json} (read : parse? text = some v) :
    v.distinctKeys = true := by
  unfold parse? parse at read
  cases found : document text.toList with
  | error stop => rw [found] at read; cases read
  | ok w =>
    rw [found] at read
    cases read
    exact document_distinctKeys found

end BulkActions.Json
