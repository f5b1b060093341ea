import BulkActions.Proofs.Json.Distinct
import BulkActions.Proofs.Json.Token

/-! The compact text of a value is read back as the value: its members in their order, its texts
with every character, its integers exactly. Only doubles, values that nest too deep and objects with
a name twice are left out. -/

namespace BulkActions

namespace Json

/-- The text of a value starts with no blank and ends no array. With three units of fuel a character
it is read back as the value, whatever closes it. -/
structure ReadsBack (v : Json) : Prop where
  starts : ∃ c cs, v.compactChars = c :: cs ∧ isBlank c = false ∧ c ≠ ']'
  reads : ∀ {fuel depth rest}, 3 * v.compactChars.length ≤ fuel → v.depth ≤ depth →
    Closes rest → value fuel depth (v.compactChars ++ rest) = .ok (v, rest)

theorem skipBlanks_cons {c : Char} (visible : isBlank c = false) (cs : List Char) :
    skipBlanks (c :: cs) = c :: cs := by
  simp [skipBlanks, visible]

/-! Values without items and members. -/

theorem readsBack_null : ReadsBack .null where
  starts := ⟨'n', _, rfl, rfl, by decide⟩
  reads {fuel depth rest} enough _ _ := by
    rw [compactChars, List.length_cons] at enough
    obtain ⟨fuel, rfl⟩ := Nat.exists_eq_add_of_le' (show 1 ≤ fuel by omega)
    simp [compactChars, value, skipBlanks_cons, isBlank, word]

theorem readsBack_bool (b : Bool) : ReadsBack (.bool b) where
  starts := by cases b <;> exact ⟨_, _, rfl, rfl, by decide⟩
  reads {fuel depth rest} enough _ _ := by
    have some : 0 < (compactChars (.bool b)).length := by cases b <;> simp [compactChars]
    obtain ⟨fuel, rfl⟩ := Nat.exists_eq_add_of_le' (show 1 ≤ fuel by omega)
    cases b <;> simp [compactChars, value, skipBlanks_cons, isBlank, word]

theorem ne_of_isDigit {d : Char} (digit : d.isDigit = true) (mark : Char)
    (other : mark.isDigit = false) : d ≠ mark := by
  rintro rfl
  rw [digit] at other
  cases other

theorem isBlank_of_isDigit {d : Char} (digit : d.isDigit = true) : isBlank d = false := by
  simp [isBlank, ne_of_isDigit digit ' ' rfl, ne_of_isDigit digit '\n' rfl,
    ne_of_isDigit digit '\t' rfl, ne_of_isDigit digit '\r' rfl]

theorem value_of_isDigit {d : Char} (digit : d.isDigit = true) (fuel depth : Nat)
    (cs : List Char) :
    value (fuel + 1) depth (d :: cs) =
      (number false (d :: cs)).map fun (n, rest) => (.num n, rest) := by
  rw [value, skipBlanks_cons (isBlank_of_isDigit digit)]
  simp [ne_of_isDigit digit 'n' rfl, ne_of_isDigit digit 't' rfl, ne_of_isDigit digit 'f' rfl,
    ne_of_isDigit digit '-' rfl, ne_of_isDigit digit '"' rfl, ne_of_isDigit digit '[' rfl,
    ne_of_isDigit digit '\x7b' rfl, digit]

theorem value_minus (fuel depth : Nat) (cs : List Char) :
    value (fuel + 1) depth ('-' :: cs) =
      (number true cs).map fun (n, rest) => (.num n, rest) := by
  simp [value, skipBlanks_cons, isBlank]

/-- An integer is written as digits, behind a minus sign where it is negative. -/
theorem compactChars_int (n : Int) :
    compactChars (.num (.int n)) =
      if n < 0 then '-' :: Nat.toDigits 10 n.natAbs else Nat.toDigits 10 n.natAbs := by
  rw [compactChars, Number.chars, Number.intChars]

theorem readsBack_int {n : Int} (fits : isWord n = true) : ReadsBack (.num (.int n)) := by
  obtain ⟨d, more, whole, digit⟩ : ∃ d more, Nat.toDigits 10 n.natAbs = d :: more ∧
      d.isDigit = true := by
    obtain ⟨d, more, whole⟩ := List.exists_cons_of_ne_nil (Nat.toDigits_ne_nil (n := n.natAbs))
    exact ⟨d, more, whole, isDigit_of_mem_toDigits (whole ▸ List.mem_cons_self)⟩
  have read {rest : List Char} (closes : Closes rest) := number_natAbs fits closes
  by_cases negative : n < 0
  · have written : compactChars (.num (.int n)) = '-' :: Nat.toDigits 10 n.natAbs := by
      rw [compactChars_int, if_pos negative]
    constructor
    · exact ⟨'-', _, written, rfl, by decide⟩
    · intro fuel depth rest enough _ closes
      rw [written, List.length_cons] at enough
      obtain ⟨fuel, rfl⟩ := Nat.exists_eq_add_of_le' (show 1 ≤ fuel by omega)
      have answer := read closes
      simp only [negative, decide_true] at answer
      rw [written, List.cons_append, value_minus, answer]
      rfl
  · have written : compactChars (.num (.int n)) = d :: more := by
      rw [compactChars_int, if_neg negative, whole]
    constructor
    · exact ⟨d, more, written, isBlank_of_isDigit digit, ne_of_isDigit digit ']' rfl⟩
    · intro fuel depth rest enough _ closes
      rw [written, List.length_cons] at enough
      obtain ⟨fuel, rfl⟩ := Nat.exists_eq_add_of_le' (show 1 ≤ fuel by omega)
      have answer := read closes
      simp only [negative, decide_false, whole, List.cons_append] at answer
      rw [written, List.cons_append, value_of_isDigit digit, answer]
      rfl

theorem readsBack_str (text : String) : ReadsBack (.str text) where
  starts := ⟨'"', _, rfl, rfl, by decide⟩
  reads {fuel depth rest} enough _ _ := by
    rw [compactChars] at enough ⊢
    have some : 0 < (quoted text).length := by simp [quoted]
    obtain ⟨fuel, rfl⟩ := Nat.exists_eq_add_of_le' (show 1 ≤ fuel by omega)
    obtain ⟨body, whole, read⟩ := stringBody_quoted (show (quoted text).length ≤ fuel + 1 by omega)
      rest
    simp [whole, value, skipBlanks_cons, isBlank, read, Except.map]

/-! Arrays. -/

section Items

variable {fuel depth : Nat} {cs rest : List Char} {v : Json} {vs : List Json}

theorem items_end (first : Bool) :
    items (fuel + 1) depth first (']' :: rest) = .ok ([], rest) := by
  simp [items, skipBlanks_cons, isBlank]

theorem ReadsBack.items_first (reads : ReadsBack v) :
    items (fuel + 1) depth true (v.compactChars ++ cs) = item fuel depth (v.compactChars ++ cs) := by
  obtain ⟨c, tail, written, visible, _⟩ := reads.starts
  rw [written, List.cons_append, items, skipBlanks_cons visible]
  simp

theorem ReadsBack.items_next (reads : ReadsBack v) :
    items (fuel + 1) depth false (',' :: (v.compactChars ++ cs)) =
      item fuel depth (v.compactChars ++ cs) := by
  obtain ⟨c, tail, written, visible, goesOn⟩ := reads.starts
  rw [written, List.cons_append, items, skipBlanks_cons rfl]
  simp [skipBlanks_cons visible, goesOn]

theorem closes_compactItems (vs : List Json) (rest : List Char) :
    Closes (compactItems vs ++ rest) := by
  cases vs with
  | nil => exact .inr (.inl rfl)
  | cons v vs => exact .inl rfl

/-- An item is read back as soon as the items behind it are. -/
theorem ReadsBack.item (reads : ReadsBack v) (enough : 3 * v.compactChars.length ≤ fuel)
    (shallow : v.depth ≤ depth)
    (later : items fuel depth false (compactItems vs ++ rest) = .ok (vs, rest)) :
    Json.item (fuel + 1) depth (v.compactChars ++ (compactItems vs ++ rest)) =
      .ok (v :: vs, rest) := by
  have first := reads.reads enough shallow (closes_compactItems vs rest)
  simp [Json.item, first, later, Except.map]

theorem items_compact (reads : ∀ v ∈ vs, ReadsBack v) (rest : List Char) {fuel depth : Nat}
    (enough : 3 * (compactItems vs).length ≤ fuel) (shallow : ∀ v ∈ vs, v.depth ≤ depth) :
    items fuel depth false (compactItems vs ++ rest) = .ok (vs, rest) := by
  induction vs generalizing fuel with
  | nil =>
    rw [compactItems, List.length_singleton] at enough
    obtain ⟨fuel, rfl⟩ := Nat.exists_eq_add_of_le' (show 1 ≤ fuel by omega)
    exact items_end false
  | cons v vs ih =>
    obtain ⟨first, later⟩ := List.forall_mem_cons.mp reads
    obtain ⟨own, others⟩ := List.forall_mem_cons.mp shallow
    rw [compactItems, List.cons_append, List.length_cons, List.length_append] at enough
    obtain ⟨fuel, rfl⟩ := Nat.exists_eq_add_of_le' (show 2 ≤ fuel by omega)
    have tail := ih later (show 3 * (compactItems vs).length ≤ fuel by omega) others
    rw [compactItems, List.cons_append, List.cons_append, List.append_assoc, first.items_next]
    exact first.item (by omega) own tail

theorem readsBack_arr (reads : ∀ v ∈ vs, ReadsBack v) : ReadsBack (.arr vs) := by
  constructor
  · cases vs <;> exact ⟨'[', _, rfl, rfl, by decide⟩
  · intro fuel depth rest enough shallow _
    obtain ⟨depth, rfl⟩ := Nat.exists_eq_add_of_le' (show 1 ≤ depth by
      rw [Json.depth] at shallow
      omega)
    have inside : ∀ v ∈ vs, v.depth ≤ depth :=
      (depthItems_le_iff vs depth).mp (Nat.le_of_succ_le_succ shallow)
    cases vs with
    | nil =>
      rw [compactChars, List.length_cons] at enough
      obtain ⟨fuel, rfl⟩ := Nat.exists_eq_add_of_le' (show 2 ≤ fuel by omega)
      simp [compactChars, value, skipBlanks_cons, isBlank, items_end, Except.map]
    | cons v vs =>
      obtain ⟨first, later⟩ := List.forall_mem_cons.mp reads
      obtain ⟨own, others⟩ := List.forall_mem_cons.mp inside
      rw [compactChars, List.cons_append, List.length_cons, List.length_append] at enough
      obtain ⟨fuel, rfl⟩ := Nat.exists_eq_add_of_le' (show 3 ≤ fuel by omega)
      have tail := items_compact later rest
        (show 3 * (compactItems vs).length ≤ fuel by omega) others
      have listed := first.items_first.trans (first.item (by omega) own tail)
      rw [compactChars, List.cons_append, List.cons_append, List.append_assoc]
      simp [value, skipBlanks_cons, isBlank, listed, Except.map]

end Items

/-! Objects. -/

section Members

variable {fuel depth : Nat} {cs rest : List Char} {v : Json} {ms : List (String × Json)}

theorem members_end (first : Bool) :
    members (fuel + 1) depth first ('\x7d' :: rest) = .ok ([], rest) := by
  simp [members, skipBlanks_cons, isBlank]

theorem members_first :
    members (fuel + 1) depth true ('"' :: cs) = member fuel depth cs := by
  simp [members, skipBlanks_cons, isBlank]

theorem members_next :
    members (fuel + 1) depth false (',' :: '"' :: cs) = member fuel depth cs := by
  simp [members, skipBlanks_cons, isBlank]

theorem closes_compactFields (ms : List (String × Json)) (rest : List Char) :
    Closes (compactFields ms ++ rest) := by
  cases ms with
  | nil => exact .inr (.inr rfl)
  | cons binding ms => exact .inl rfl

/-- A member is read back as soon as the members behind it are. -/
theorem ReadsBack.member (reads : ReadsBack v) (name : String)
    (enough : (quoted name).length + 3 * v.compactChars.length ≤ fuel + 1)
    (shallow : v.depth ≤ depth)
    (later : members fuel depth false (compactFields ms ++ rest) = .ok (ms, rest)) :
    ∃ body, quoted name ++ ':' :: (v.compactChars ++ (compactFields ms ++ rest)) = '"' :: body ∧
      Json.member (fuel + 1) depth body = .ok ((name, v) :: ms, rest) := by
  have opens : 0 < (quoted name).length := by simp [quoted]
  have first := reads.reads (show 3 * v.compactChars.length ≤ fuel by omega) shallow
    (closes_compactFields ms rest)
  obtain ⟨body, quote, named⟩ := stringBody_quoted (show (quoted name).length ≤ fuel + 1 by omega)
    (':' :: (v.compactChars ++ (compactFields ms ++ rest)))
  exact ⟨body, quote, by
    simp [Json.member, named, skipBlanks_cons, isBlank, first, later, Except.map]⟩

theorem members_compact (reads : ∀ binding ∈ ms, ReadsBack binding.2) (rest : List Char)
    {fuel depth : Nat} (enough : 3 * (compactFields ms).length ≤ fuel)
    (shallow : ∀ binding ∈ ms, binding.2.depth ≤ depth) :
    members fuel depth false (compactFields ms ++ rest) = .ok (ms, rest) := by
  induction ms generalizing fuel with
  | nil =>
    rw [compactFields, List.length_singleton] at enough
    obtain ⟨fuel, rfl⟩ := Nat.exists_eq_add_of_le' (show 1 ≤ fuel by omega)
    exact members_end false
  | cons binding ms ih =>
    obtain ⟨name, v⟩ := binding
    obtain ⟨first, later⟩ := List.forall_mem_cons.mp reads
    obtain ⟨own, others⟩ := List.forall_mem_cons.mp shallow
    simp only [compactFields, List.cons_append, List.length_cons, List.length_append] at enough
    obtain ⟨fuel, rfl⟩ := Nat.exists_eq_add_of_le' (show 2 ≤ fuel by omega)
    have tail := ih later (show 3 * (compactFields ms).length ≤ fuel by omega) others
    have room : (quoted name).length + 3 * v.compactChars.length ≤ fuel + 1 := by omega
    obtain ⟨body, quote, whole⟩ := first.member name room own tail
    have text : compactFields ((name, v) :: ms) ++ rest = ',' :: '"' :: body := by
      simp [compactFields, ← quote]
    rw [text, members_next, whole]

theorem readsBack_obj (distinct : (Assoc.keys ms).Nodup)
    (reads : ∀ binding ∈ ms, ReadsBack binding.2) : ReadsBack (.obj ms) := by
  constructor
  · rcases ms with _ | ⟨⟨name, v⟩, ms⟩ <;> exact ⟨'\x7b', _, rfl, rfl, by decide⟩
  · intro fuel depth rest enough shallow _
    obtain ⟨depth, rfl⟩ := Nat.exists_eq_add_of_le' (show 1 ≤ depth by
      rw [Json.depth] at shallow
      omega)
    have inside : ∀ binding ∈ ms, binding.2.depth ≤ depth :=
      (depthFields_le_iff ms depth).mp (Nat.le_of_succ_le_succ shallow)
    have kept := Assoc.ofList_of_nodup distinct
    rcases ms with _ | ⟨⟨name, v⟩, ms⟩
    · rw [compactChars, List.length_cons] at enough
      obtain ⟨fuel, rfl⟩ := Nat.exists_eq_add_of_le' (show 2 ≤ fuel by omega)
      simp [compactChars, value, skipBlanks_cons, isBlank, members_end, Except.map, kept]
    · obtain ⟨first, later⟩ := List.forall_mem_cons.mp reads
      obtain ⟨own, others⟩ := List.forall_mem_cons.mp inside
      simp only [compactChars, List.cons_append, List.length_cons, List.length_append] at enough
      obtain ⟨fuel, rfl⟩ := Nat.exists_eq_add_of_le' (show 3 ≤ fuel by omega)
      have tail := members_compact later rest
        (show 3 * (compactFields ms).length ≤ fuel by omega) others
      have room : (quoted name).length + 3 * v.compactChars.length ≤ fuel + 1 := by omega
      obtain ⟨body, quote, whole⟩ := first.member name room own tail
      have text : compactChars (.obj ((name, v) :: ms)) ++ rest = '\x7b' :: '"' :: body := by
        simp [compactChars, ← quote]
      have listed := members_first.trans whole
      rw [text]
      simp [value, skipBlanks_cons, isBlank, listed, Except.map, kept]

end Members

theorem readsBack {v : Json} (whole : v.wholeNumbers = true) (distinct : v.distinctKeys = true) :
    ReadsBack v := by
  induction v using Json.induction with
  | null => exact readsBack_null
  | bool b => exact readsBack_bool b
  | num n =>
    cases n with
    | int n => exact readsBack_int whole
    | float x => cases whole
  | str text => exact readsBack_str text
  | arr items ih =>
    have whole := (wholeItems_iff items).mp whole
    have distinct := (distinctKeys_arr items).mp distinct
    exact readsBack_arr fun v member => ih v member (whole v member) (distinct v member)
  | obj fields ih =>
    have whole := (wholeFields_iff fields).mp whole
    obtain ⟨nodup, distinct⟩ := (distinctKeys_obj fields).mp distinct
    exact readsBack_obj nodup fun binding member =>
      ih binding member (whole binding member) (distinct binding member)

/-- A value whose compact text stands for it: its numbers are integers of a word, it nests no deeper
than a document may, and no object names a member twice. -/
structure Plain (v : Json) : Prop where
  whole : v.wholeNumbers = true
  shallow : v.depth ≤ depthLimit
  distinct : v.distinctKeys = true

theorem Plain.parse?_compact {v : Json} (plain : v.Plain) : parse? v.compact = some v := by
  have read : value (3 * v.compactChars.length + 3) depthLimit v.compactChars = .ok (v, []) := by
    have closed : Closes [] := trivial
    have whole := (readsBack plain.whole plain.distinct).reads (Nat.le_add_right _ 3) plain.shallow
      closed
    rwa [List.append_nil] at whole
  have text : document v.compactChars = .ok v := by
    rw [document, read]
    rfl
  rw [parse?, parse, compact, String.toList_ofList, text]
  rfl

end Json

end BulkActions
