import BulkActions.Proofs.Decode.Fault

/-! The order of the members of a record. It decides which of several faults is reported, and
nothing else. -/

namespace BulkActions.Decode.Record

variable {σ α β : Type} {fields : List (String × Decoder σ Unit)} {members others : List (Key × σ)}
  {e : Error}

/-- A member the record does not pass over. -/
def isKnown (fields : List (String × Decoder σ Unit)) (member : Key × σ) : Bool :=
  match member.1 with
  | .other _ => true
  | .name name => (fields.lookup name).isSome

/-- The same members in some order, apart from those that are passed over. -/
def Reordered (fields : List (String × Decoder σ Unit)) (members others : List (Key × σ)) : Prop :=
  (members.filter (isKnown fields)).Perm (others.filter (isKnown fields))

namespace Reordered

theorem symm (same : Reordered fields members others) : Reordered fields others members :=
  List.Perm.symm same

theorem mem_iff (same : Reordered fields members others) {member : Key × σ}
    (known : isKnown fields member = true) : member ∈ members ↔ member ∈ others := by
  have kept := List.Perm.mem_iff (a := member) same
  simpa [List.mem_filter, known] using kept

theorem occurrences_eq (same : Reordered fields members others) {name : String}
    (known : (fields.lookup name).isSome = true) :
    occurrences members name = occurrences others name := by
  have kept (list : List (Key × σ)) :
      occurrences (list.filter (isKnown fields)) name = occurrences list name := by
    rw [occurrences, List.countP_filter]
    refine List.countP_congr fun member _ => ?_
    obtain ⟨key, v⟩ := member
    simp only [Bool.and_eq_true, decide_eq_true_eq, and_iff_left_iff_imp]
    rintro rfl
    exact known
  rw [← kept members, ← kept others]
  exact List.Perm.countP_eq _ same

/-- Faults do not depend on the order. -/
theorem fault (same : Reordered fields members others) (fault : Fault fields members e) :
    Fault fields others e := by
  cases fault with
  | key member => exact .key ((same.mem_iff rfl).mp member)
  | twice known repeated =>
    have listed : (fields.lookup _).isSome = true := Option.isSome_iff_exists.mpr ⟨_, known⟩
    exact .twice known (same.occurrences_eq listed ▸ repeated)
  | @value name v _ _ known member refused =>
    have listed : isKnown fields (.name name, v) = true := Option.isSome_iff_exists.mpr ⟨_, known⟩
    exact .value known ((same.mem_iff listed).mp member) refused

end Reordered

/-- A name that is given at most once is found wherever it stands. -/
theorem find_eq_some_iff {name : String} (once : occurrences members name ≤ 1) (v : σ) :
    find members name = some v ↔ (.name name, v) ∈ members := by
  induction members with
  | nil => simp [find]
  | cons head rest ih =>
    obtain ⟨key, w⟩ := head
    by_cases same : key = .name name
    · subst same
      rw [occurrences_cons_self] at once
      have absent : (.name name, v) ∉ rest := fun later =>
        absurd (occurrences_pos later) (by omega)
      have found : find ((.name name, w) :: rest) name = some w := by simp [find]
      rw [found, List.mem_cons]
      simp [absent, eq_comm]
    · have passed : find ((key, w) :: rest) name = find rest name := by simp [find, same]
      have differs : (Key.name name, v) ≠ (key, w) := fun equal => same (Prod.mk.inj equal).1.symm
      rw [passed, ih (Nat.le_trans (occurrences_le_cons _ rest name) once), List.mem_cons]
      simp [differs]

/-- What the record builds depends on the members of its fields alone. -/
def ReadsFields (r : Record σ α) : Prop :=
  ∀ position (given other : Members σ), given.named = other.named → given.missing = other.missing →
    (∀ field ∈ r.fields, given.get field.1 = other.get field.1) →
    r.build position given = r.build position other

theorem readsFields_defaulted (name : String) (read : Decoder σ α) (value : α) :
    (defaulted name read value).ReadsFields := by
  intro position given other _ _ equal
  have found := equal (name, checkOf read) (List.mem_singleton.mpr rfl)
  simp only [defaulted, found]

theorem ReadsFields.map {r : Record σ α} (reads : r.ReadsFields) (f : α → β) :
    (f <$> r).ReadsFields := by
  intro position given other named missing equal
  exact congrArg (Except.map f) (reads position given other named missing equal)

theorem ReadsFields.seq {f : Record σ (α → β)} {r : Record σ α} (first : f.ReadsFields)
    (second : r.ReadsFields) : (f <*> r).ReadsFields := by
  intro position given other named missing equal
  have left := first position given other named missing fun field member =>
    equal field (List.mem_append_left _ member)
  have right := second (position + f.fields.length) given other named missing fun field member =>
    equal field (List.mem_append_right _ member)
  show (Record.seq f r).build position given = (Record.seq f r).build position other
  simp only [Record.seq, left, right]

/-- Where there is no fault, each field finds the same member in any order. -/
theorem Reordered.find_eq (same : Reordered fields members others)
    (clean : ∀ e, ¬ Fault fields members e) {field : String × Decoder σ Unit}
    (member : field ∈ fields) : find members field.1 = find others field.1 := by
  obtain ⟨name, read⟩ := field
  have listed : (fields.lookup name).isSome = true := by
    cases looked : fields.lookup name with
    | some _ => rfl
    | none => simpa using List.lookup_eq_none_iff.mp looked (name, read) member
  obtain ⟨reader, known⟩ := Option.isSome_iff_exists.mp listed
  have once : occurrences members name ≤ 1 :=
    Nat.le_of_not_lt fun repeated => clean _ (.twice known repeated)
  have elsewhere : occurrences others name ≤ 1 := same.occurrences_eq listed ▸ once
  apply Option.ext
  intro v
  have kept : isKnown fields (.name name, v) = true := listed
  rw [find_eq_some_iff once, find_eq_some_iff elsewhere]
  exact same.mem_iff kept

/-- In another order the members give the same record or the same error, unless there are two faults
among them: then each order may report one of its own. -/
theorem ofMembers_reordered {r : Record σ α} (reads : r.ReadsFields)
    (same : Reordered r.fields members others) :
    r.ofMembers members = r.ofMembers others ∨
      ∃ x y, x ≠ y ∧ Fault r.fields members x ∧ Fault r.fields members y ∧
        r.ofMembers members = .error x ∧ r.ofMembers others = .error y := by
  cases first : check r.fields [] members with
  | ok _ =>
    have clean := check_eq_ok_iff.mp first
    have second : check r.fields [] others = .ok () :=
      check_eq_ok_iff.mpr fun e fault => clean e (same.symm.fault fault)
    left
    simp only [ofMembers, first, second]
    exact reads 0 _ _ rfl rfl fun field member => same.find_eq clean member
  | error x =>
    have fault := fault_of_check first
    cases second : check r.fields [] others with
    | ok _ => exact absurd (same.fault fault) (check_eq_ok_iff.mp second x)
    | error y =>
      by_cases equal : x = y
      · left
        simp only [ofMembers, first, second, equal]
      · refine .inr ⟨x, y, equal, fault, same.symm.fault (fault_of_check second), ?_, ?_⟩
        · simp only [ofMembers, first]
        · simp only [ofMembers, second]

end BulkActions.Decode.Record
