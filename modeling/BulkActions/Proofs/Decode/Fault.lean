import BulkActions.Decode.Record

/-! What can be wrong with the members of a record. The members are checked in the order they come
in, but whether there is a fault among them does not depend on the order, nor on members of other
names. -/

namespace BulkActions.Decode.Record

variable {σ α β : Type} {fields : List (String × Decoder σ Unit)} {seen : List String}
  {members others : List (Key × σ)} {e : Error}

/-- How often a name is given. -/
def occurrences (members : List (Key × σ)) (name : String) : Nat :=
  members.countP fun member => member.1 = .name name

/-- A reason to refuse members: a key that is no name, a field that is given twice, or a value that
its field refuses. -/
inductive Fault (fields : List (String × Decoder σ Unit)) (members : List (Key × σ)) :
    Error → Prop where
  | key {found : Found} {v : σ} (member : (.other found, v) ∈ members) :
      Fault fields members (.wrongType found "field identifier")
  | twice {name : String} {read : Decoder σ Unit} (known : fields.lookup name = some read)
      (repeated : 1 < occurrences members name) : Fault fields members (.duplicateField name)
  | value {name : String} {v : σ} {read : Decoder σ Unit} {e : Error}
      (known : fields.lookup name = some read) (member : (.name name, v) ∈ members)
      (refused : read v = .error e) : Fault fields members e

theorem occurrences_cons_self (name : String) (v : σ) (rest : List (Key × σ)) :
    occurrences ((.name name, v) :: rest) name = occurrences rest name + 1 := by
  simp [occurrences]

theorem occurrences_cons_of_ne {name other : String} (differs : other ≠ name) {v : σ}
    {rest : List (Key × σ)} :
    occurrences ((.name name, v) :: rest) other = occurrences rest other := by
  simp [occurrences, Ne.symm differs]

theorem occurrences_le_cons (member : Key × σ) (rest : List (Key × σ)) (name : String) :
    occurrences rest name ≤ occurrences (member :: rest) name :=
  (List.sublist_cons_self member rest).countP_le

theorem occurrences_pos {name : String} {v : σ} (member : (.name name, v) ∈ members) :
    0 < occurrences members name :=
  List.countP_pos_iff.mpr ⟨_, member, by simp⟩

theorem Fault.cons (fault : Fault fields members e) (head : Key × σ) :
    Fault fields (head :: members) e := by
  cases fault with
  | key member => exact .key (List.mem_cons_of_mem _ member)
  | twice known repeated =>
    exact .twice known (Nat.lt_of_lt_of_le repeated (occurrences_le_cons head members _))
  | value known member refused => exact .value known (List.mem_cons_of_mem _ member) refused

/-- How a check goes past a member, and the fields it has seen then. -/
inductive Passed (fields : List (String × Decoder σ Unit)) (seen : List String) :
    Key × σ → List String → Prop where
  | skipped {name : String} {v : σ} (unknown : fields.lookup name = none) :
      Passed fields seen (.name name, v) seen
  | read {name : String} {v : σ} {read : Decoder σ Unit} (known : fields.lookup name = some read)
      (fresh : name ∉ seen) (accepted : read v = .ok ()) :
      Passed fields seen (.name name, v) (name :: seen)

/-- How a check ends at a member. -/
inductive Refused (fields : List (String × Decoder σ Unit)) (seen : List String) :
    Key × σ → Error → Prop where
  | key {found : Found} {v : σ} :
      Refused fields seen (.other found, v) (.wrongType found "field identifier")
  | again {name : String} {v : σ} {read : Decoder σ Unit} (known : fields.lookup name = some read)
      (early : name ∈ seen) : Refused fields seen (.name name, v) (.duplicateField name)
  | value {name : String} {v : σ} {read : Decoder σ Unit} {e : Error}
      (known : fields.lookup name = some read) (rejected : read v = .error e) :
      Refused fields seen (.name name, v) e

/-- A check goes past the first member, or ends there. -/
theorem check_cons_cases (fields : List (String × Decoder σ Unit)) (seen : List String)
    (head : Key × σ) (rest : List (Key × σ)) :
    (∃ later, Passed fields seen head later ∧
      check fields seen (head :: rest) = check fields later rest) ∨
    ∃ e, Refused fields seen head e ∧ check fields seen (head :: rest) = .error e := by
  obtain ⟨key, v⟩ := head
  cases key with
  | other found => exact .inr ⟨_, .key, rfl⟩
  | name name =>
    cases known : fields.lookup name with
    | none => exact .inl ⟨_, .skipped known, by simp only [check, known]⟩
    | some read =>
      by_cases early : name ∈ seen
      · exact .inr ⟨_, .again known early, by simp [check, known, early]⟩
      · cases judged : read v with
        | error e => exact .inr ⟨e, .value known judged, by simp [check, known, early, judged]⟩
        | ok _ => exact .inl ⟨_, .read known early judged, by simp [check, known, early, judged]⟩

/-- The error of a check is a fault, or a field has been seen in front of the members. -/
theorem fault_or_seen_of_check (refused : check fields seen members = .error e) :
    Fault fields members e ∨
      ∃ name read, fields.lookup name = some read ∧ name ∈ seen ∧
        0 < occurrences members name ∧ e = .duplicateField name := by
  induction members generalizing seen with
  | nil => simp [check] at refused
  | cons head rest ih =>
    rcases check_cons_cases fields seen head rest with ⟨later, passed, step⟩ | ⟨x, ended, step⟩
    · rw [step] at refused
      rcases ih refused with fault | ⟨name, reader, known, early, given, reason⟩
      · exact .inl (fault.cons head)
      · have widened := Nat.lt_of_lt_of_le given (occurrences_le_cons head rest name)
        cases passed with
        | skipped _ => exact .inr ⟨name, reader, known, early, widened, reason⟩
        | read _ _ _ =>
          rcases List.mem_cons.mp early with rfl | before
          · subst reason
            refine .inl (.twice known ?_)
            rw [occurrences_cons_self]
            exact Nat.succ_lt_succ given
          · exact .inr ⟨name, reader, known, before, widened, reason⟩
    · cases step.symm.trans refused
      cases ended with
      | key => exact .inl (.key List.mem_cons_self)
      | again known early =>
        exact .inr ⟨_, _, known, early, occurrences_pos List.mem_cons_self, rfl⟩
      | value known rejected => exact .inl (.value known List.mem_cons_self rejected)

/-- A fault behind a named member is one of the others, or lies in the member: its value is refused,
or its name is given again. -/
theorem Fault.of_cons {name : String} {v : σ} {rest : List (Key × σ)}
    (fault : Fault fields ((.name name, v) :: rest) e) :
    Fault fields rest e ∨
      ∃ read, fields.lookup name = some read ∧
        (read v = .error e ∨ 0 < occurrences rest name ∧ e = .duplicateField name) := by
  cases fault with
  | key member => exact .inl (.key (List.mem_of_ne_of_mem (by simp) member))
  | @twice other read known repeated =>
    by_cases same : other = name
    · subst same
      rw [occurrences_cons_self] at repeated
      exact .inr ⟨read, known, .inr ⟨Nat.lt_of_succ_lt_succ repeated, rfl⟩⟩
    · rw [occurrences_cons_of_ne same] at repeated
      exact .inl (.twice known repeated)
  | @value other w read _ known member refused =>
    rcases List.mem_cons.mp member with same | later
    · cases same
      exact .inr ⟨read, known, .inl refused⟩
    · exact .inl (.value known later refused)

/-- A check that passes found no fault, and no field that has been seen before. -/
theorem faultless_of_check (passes : check fields seen members = .ok ()) :
    (∀ e, ¬ Fault fields members e) ∧
      ∀ name read, fields.lookup name = some read → name ∈ seen → occurrences members name = 0 := by
  induction members generalizing seen with
  | nil =>
    refine ⟨?_, fun _ _ _ _ => rfl⟩
    intro e fault
    cases fault with
    | key member => cases member
    | twice _ repeated => simp [occurrences] at repeated
    | value _ member _ => cases member
  | cons head rest ih =>
    rcases check_cons_cases fields seen head rest with ⟨later, passed, step⟩ | ⟨x, _, step⟩
    · rw [step] at passes
      obtain ⟨clean, unseen⟩ := ih passes
      cases passed with
      | @skipped name v unknown =>
        constructor
        · intro e fault
          rcases fault.of_cons with behind | ⟨read, known, _⟩
          · exact clean e behind
          · cases unknown.symm.trans known
        · intro other read known early
          have differs : other ≠ name := by
            rintro rfl
            cases unknown.symm.trans known
          rw [occurrences_cons_of_ne differs]
          exact unseen other read known early
      | @read name v read listed fresh accepted =>
        constructor
        · intro e fault
          rcases fault.of_cons with behind | ⟨reader, known, rejected | ⟨again, _⟩⟩
          · exact clean e behind
          · cases listed.symm.trans known
            cases accepted.symm.trans rejected
          · exact absurd (unseen name read listed List.mem_cons_self) (Nat.ne_of_gt again)
        · intro other reader known early
          have differs : other ≠ name := by
            rintro rfl
            exact fresh early
          rw [occurrences_cons_of_ne differs]
          exact unseen other reader known (List.mem_cons_of_mem _ early)
    · cases step.symm.trans passes

/-- The error of a record's check is one of the faults of its members. -/
theorem fault_of_check (refused : check fields [] members = .error e) : Fault fields members e := by
  rcases fault_or_seen_of_check refused with fault | ⟨_, _, _, early, _⟩
  · exact fault
  · cases early

/-- The members pass exactly if there is no fault among them. -/
theorem check_eq_ok_iff : check fields [] members = .ok () ↔ ∀ e, ¬ Fault fields members e := by
  constructor
  · exact fun passed => (faultless_of_check passed).1
  · intro clean
    cases checked : check fields [] members with
    | ok _ => rfl
    | error e => exact absurd (fault_of_check checked) (clean e)

end BulkActions.Decode.Record
