import BulkActions.Decode.Document
import BulkActions.Proofs.Decode.Fault
import BulkActions.Proofs.Json.Bindings

/-! Records read from the members of an object with distinct keys. A record accepts such an object
if each of its fields finds its member, or can do without, and no member is refused. -/

namespace BulkActions.Decode

section Values

variable {α : Type} {read : Decoder Document α}

/-- The value is read as this, whether or not it was set aside. -/
def Reads (read : Decoder Document α) (v : Json) (a : α) : Prop :=
  ∀ aside, read ⟨v, aside⟩ = .ok a

theorem Reads.fromJson {v : Json} {a : α} (reads : Reads read v a) : fromJson read v = .ok a :=
  reads false

theorem reads_text (s : String) : Reads text (.str s) s := fun _ => rfl

theorem Reads.option {v : Json} {a : α} (reads : Reads read v a) (present : v ≠ .null) :
    Reads (option read) v (some a) := by
  intro aside
  have filled : Source.shape (⟨v, aside⟩ : Document) ≠ .null := by
    cases v with
    | null => exact absurd rfl present
    | num n => cases n <;> simp [Source.shape, Document.shape]
    | _ => simp [Source.shape, Document.shape]
  unfold Decode.option
  split
  · rename_i empty
    exact absurd empty filled
  · rw [reads aside]
    rfl

theorem reads_sequence {write : α → Json} (reads : ∀ a, Reads read (write a) a) (as : List α) :
    Reads (sequence read) (.arr (as.map write)) as := by
  intro aside
  show each read ((as.map write).map fun v => (⟨v, aside⟩ : Document)) = .ok as
  induction as with
  | nil => rfl
  | cons a rest ih =>
    simp only [List.map_cons, each, reads a aside, ih]
    rfl

end Values

namespace Record

variable {α β : Type} {fields : Assoc String Json} {aside : Bool}

/-- The members of an object by their names. -/
def membersOf (fields : Assoc String Json) (aside : Bool) : List (Key × Document) :=
  fields.map fun (name, v) => (.name name, ⟨v, aside⟩)

theorem find_membersOf (fields : Assoc String Json) (aside : Bool) (name : String) :
    find (membersOf fields aside) name = (fields.find? name).map fun v => ⟨v, aside⟩ := by
  induction fields with
  | nil => rfl
  | cons binding rest ih =>
    obtain ⟨other, v⟩ := binding
    rw [Assoc.find?_cons]
    by_cases same : name = other
    · simp [find, membersOf, same]
    · have differs : other ≠ name := fun equal => same equal.symm
      rw [if_neg same, ← ih]
      simp [find, membersOf, differs]

/-- An object gives this record. -/
structure Accepts (r : Record Document α) (fields : Assoc String Json) (a : α) : Prop where
  passes : ∀ name v, (name, v) ∈ fields → ∀ read, (name, read) ∈ r.fields → Reads read v ()
  builds : ∀ aside position missing,
    r.build position ⟨find (membersOf fields aside), true, missing⟩ = .ok a

theorem occurrences_membersOf (distinct : fields.keys.Nodup) (name : String) :
    occurrences (membersOf fields aside) name ≤ 1 := by
  have counted : occurrences (membersOf fields aside) name = fields.keys.count name := by
    simp only [occurrences, membersOf, Assoc.keys, List.count, List.countP_map]
    exact List.countP_congr fun field _ => by simp
  rw [counted]
  exact List.nodup_iff_count.mp distinct name

theorem check_of_passes {known : List (String × Decoder Document Unit)}
    (distinct : fields.keys.Nodup)
    (passes : ∀ name v, (name, v) ∈ fields → ∀ read, (name, read) ∈ known → Reads read v ()) :
    check known [] (membersOf fields aside) = .ok () := by
  refine check_eq_ok_iff.mpr fun e fault => ?_
  cases fault with
  | key member => simp [membersOf] at member
  | @twice name _ _ repeated =>
    exact absurd (occurrences_membersOf distinct name) (Nat.not_le_of_lt repeated)
  | @value name v read _ listed member refused =>
    obtain ⟨⟨other, w⟩, present, same⟩ := List.mem_map.mp member
    cases same
    have accepted := passes name w present read (Assoc.mem_of_find? listed) aside
    simp [accepted] at refused

namespace Accepts

theorem ofMembers {r : Record Document α} {a : α} (accepts : r.Accepts fields a)
    (distinct : fields.keys.Nodup) (aside : Bool) :
    r.ofMembers (membersOf fields aside) = .ok a := by
  have checked : check r.fields [] (membersOf fields aside) = .ok () :=
    check_of_passes distinct accepts.passes
  have built := accepts.builds aside 0 fun _ name => .missingField name
  simp only [Record.ofMembers, checked, built]

theorem reads {r : Record Document α} {a : α} (accepts : r.Accepts fields a)
    (distinct : fields.keys.Nodup) (name : String) : Reads (decoder name r) (.obj fields) a :=
  fun aside => accepts.ofMembers distinct aside

theorem map {r : Record Document α} {a : α} (accepts : r.Accepts fields a) (f : α → β) :
    (f <$> r).Accepts fields (f a) where
  passes := accepts.passes
  builds aside position missing := congrArg (Except.map f) (accepts.builds aside position missing)

theorem seq {f : Record Document (α → β)} {r : Record Document α} {g : α → β} {a : α}
    (first : f.Accepts fields g) (second : r.Accepts fields a) :
    (f <*> r).Accepts fields (g a) where
  passes name v member read known := by
    rcases List.mem_append.mp known with left | right
    · exact first.passes name v member read left
    · exact second.passes name v member read right
  builds aside position missing := by
    have left := first.builds aside position missing
    have right := second.builds aside (position + f.fields.length) missing
    show (Record.seq f r).build position _ = _
    simp only [Record.seq, left, right]
    rfl

variable {name : String} {read : Decoder Document α} {v : Json} {a : α}

theorem required (distinct : fields.keys.Nodup) (found : fields.find? name = some v)
    (accepted : Reads read v a) : (Record.required name read).Accepts fields a where
  passes other w member reader known aside := by
    cases List.mem_singleton.mp known
    cases found.symm.trans (Assoc.find?_of_mem distinct member)
    simp [checkOf, accepted aside, Except.map]
  builds aside position missing := by
    simp only [Record.required, find_membersOf, found, Option.map_some, accepted aside]

theorem defaulted (distinct : fields.keys.Nodup) {default : α}
    (accepted : ∀ v, fields.find? name = some v → Reads read v a)
    (absent : fields.find? name = none → default = a) :
    (Record.defaulted name read default).Accepts fields a where
  passes other w member reader known aside := by
    cases List.mem_singleton.mp known
    simp [checkOf, accepted w (Assoc.find?_of_mem distinct member) aside, Except.map]
  builds aside position missing := by
    simp only [Record.defaulted, find_membersOf]
    cases found : fields.find? name with
    | none => simp [absent found]
    | some v => simp [accepted v found aside]

theorem given (distinct : fields.keys.Nodup) (found : fields.find? name = some v)
    (accepted : Reads read v a) (default : α) :
    (Record.defaulted name read default).Accepts fields a := by
  refine defaulted distinct ?_ fun absent => nomatch found.symm.trans absent
  intro w present
  cases found.symm.trans present
  exact accepted

/-- A field that is left out where it holds nothing. -/
theorem detail {write : α → Json} (reads : ∀ a, Reads read (write a) a)
    (filled : ∀ a, write a ≠ .null) (detail : Option α) :
    (Record.defaulted name (option read) none).Accepts (Assoc.optional name (detail.map write))
      detail := by
  cases detail with
  | none =>
    have empty : (Assoc.keys ([] : Assoc String Json)).Nodup := List.nodup_nil
    exact defaulted empty (fun _ found => nomatch found) fun _ => rfl
  | some a =>
    have found : Assoc.find? [(name, write a)] name = some (write a) := by simp [Assoc.find?_cons]
    exact given (by simp [Assoc.keys]) found ((reads a).option (filled a)) none

end Accepts

end Record

/-- A choice whose tag stands first is read from the members behind it, set aside. -/
theorem Tagged.read_cons (t : Tagged) (tag : String) {rest : Assoc String Json}
    (fresh : t.tag ∉ rest.keys) (aside : Bool) :
    t.read ⟨.obj ((t.tag, .str tag) :: rest), aside⟩ =
      .ok (tag, .named (Record.membersOf rest true)) := by
  have kept : rest.filter (fun member => member.1 ≠ t.tag) = rest := by
    refine List.filter_eq_self.mpr fun member present => ?_
    have differs : member.1 ≠ t.tag := fun same =>
      fresh (same ▸ List.mem_map.mpr ⟨member, present, rfl⟩)
    simpa using differs
  have found : Assoc.find? ((t.tag, Json.str tag) :: rest) t.tag = some (.str tag) := by
    simp [Assoc.find?_cons]
  simp only [Tagged.read, found]
  rw [List.filter_cons_of_neg (by simp), kept]
  rfl

end BulkActions.Decode
