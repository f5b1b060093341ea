import BulkActions.Run.Tally

/-! A list in pieces of one size: the pieces hold the list in order, all but the last are full, and
each is found by its number. -/

namespace BulkActions.Run

variable {α : Type} {size : Nat}

private theorem go_eq_go (positive : 0 < size) {xs : List α} {fuel more : Nat}
    (enough : xs.length ≤ fuel) (alsoEnough : xs.length ≤ more) :
    pieces.go size fuel xs = pieces.go size more xs := by
  induction fuel generalizing xs more with
  | zero =>
    have empty : xs = [] := List.length_eq_zero_iff.mp (Nat.le_zero.mp enough)
    subst empty
    cases more <;> rfl
  | succ fuel ih =>
    cases xs with
    | nil => cases more <;> rfl
    | cons x rest =>
      cases more with
      | zero => simp at alsoEnough
      | succ more =>
        simp only [pieces.go]
        congr 1
        apply ih
        · simp only [List.length_drop, List.length_cons] at enough ⊢; omega
        · simp only [List.length_drop, List.length_cons] at alsoEnough ⊢; omega

@[simp] theorem pieces_nil (size : Nat) : pieces size ([] : List α) = [] := rfl

theorem pieces_of_ne_nil (positive : 0 < size) {xs : List α} (nonempty : xs ≠ []) :
    pieces size xs = xs.take size :: pieces size (xs.drop size) := by
  cases xs with
  | nil => exact absurd rfl nonempty
  | cons x rest =>
    have tail : pieces.go size rest.length ((x :: rest).drop size) =
        pieces size ((x :: rest).drop size) :=
      go_eq_go positive (by simp only [List.length_drop, List.length_cons]; omega) (Nat.le_refl _)
    rw [← tail]
    rfl

/-- Induction along the pieces of a list. -/
theorem pieces_induction (positive : 0 < size) {motive : List α → Prop} (nil : motive [])
    (piece : ∀ xs, xs ≠ [] → motive (xs.drop size) → motive xs) (xs : List α) : motive xs := by
  generalize bound : xs.length = n
  induction n using Nat.strongRecOn generalizing xs with
  | ind n ih =>
    by_cases empty : xs = []
    · rw [empty]; exact nil
    · have longer : 0 < xs.length := List.length_pos_iff.mpr empty
      exact piece xs empty (ih (xs.drop size).length
        (by simp only [List.length_drop]; omega) (xs.drop size) rfl)

theorem flatten_pieces (positive : 0 < size) (xs : List α) : (pieces size xs).flatten = xs := by
  induction xs using pieces_induction positive with
  | nil => rfl
  | piece xs nonempty ih =>
    rw [pieces_of_ne_nil positive nonempty, List.flatten_cons, ih, List.take_append_drop]

theorem length_le_of_mem_pieces (positive : 0 < size) {xs : List α} :
    ∀ piece ∈ pieces size xs, piece.length ≤ size := by
  induction xs using pieces_induction positive with
  | nil => simp
  | piece xs nonempty ih =>
    rw [pieces_of_ne_nil positive nonempty]
    exact List.forall_mem_cons.mpr ⟨List.length_take_le _ _, ih⟩

theorem flatten_take_pieces (positive : 0 < size) (xs : List α) (count : Nat) :
    ((pieces size xs).take count).flatten = xs.take (count * size) := by
  induction xs using pieces_induction positive generalizing count with
  | nil => simp
  | piece xs nonempty ih =>
    rw [pieces_of_ne_nil positive nonempty]
    cases count with
    | zero => simp
    | succ count =>
      rw [List.take_succ_cons, List.flatten_cons, ih, Nat.succ_mul, Nat.add_comm, List.take_add]

theorem length_pieces (positive : 0 < size) (xs : List α) :
    (pieces size xs).length = (xs.length + size - 1) / size := by
  induction xs using pieces_induction positive with
  | nil => simp [Nat.div_eq_of_lt (Nat.sub_lt positive Nat.one_pos)]
  | piece xs nonempty ih =>
    have longer : 0 < xs.length := List.length_pos_iff.mpr nonempty
    rw [pieces_of_ne_nil positive nonempty, List.length_cons, ih, List.length_drop,
      ← Nat.add_div_right _ positive]
    by_cases full : size ≤ xs.length
    · congr 1; omega
    · have first : (xs.length - size + size - 1 + size) / size = 1 :=
        Nat.div_eq_of_lt_le (by omega) (by omega)
      have last : (xs.length + size - 1) / size = 1 :=
        Nat.div_eq_of_lt_le (by omega) (by omega)
      rw [first, last]

theorem getElem?_pieces (positive : 0 < size) (xs : List α) (k : Nat) :
    (pieces size xs)[k]? =
      if k * size < xs.length then some ((xs.drop (k * size)).take size) else none := by
  induction xs using pieces_induction positive generalizing k with
  | nil => simp
  | piece xs nonempty ih =>
    rw [pieces_of_ne_nil positive nonempty]
    cases k with
    | zero => simp [List.length_pos_iff.mpr nonempty]
    | succ k =>
      rw [List.getElem?_cons_succ, ih, List.length_drop, List.drop_drop, Nat.succ_mul,
        Nat.add_comm size]
      congr 1
      exact propext (by omega)

/-- The pieces by their numbers. -/
theorem pieces_eq_map_range (positive : 0 < size) (xs : List α) :
    pieces size xs = (List.range ((xs.length + size - 1) / size)).map fun k =>
      (xs.drop (k * size)).take size := by
  apply List.ext_getElem?
  intro k
  have known := getElem?_pieces positive xs k
  rw [known, ← length_pieces positive, List.getElem?_map]
  split
  · rename_i within
    rw [if_pos within] at known
    obtain ⟨present, _⟩ := List.getElem?_eq_some_iff.mp known
    rw [List.getElem?_range present]
    rfl
  · rename_i beyond
    rw [if_neg beyond] at known
    have absent := List.getElem?_eq_none_iff.mp known
    rw [List.getElem?_eq_none (by simpa using absent)]
    rfl

end BulkActions.Run
