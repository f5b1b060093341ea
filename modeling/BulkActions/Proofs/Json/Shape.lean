import BulkActions.Json.Basic

/-! Values by their shape: an induction over items and members, how deep a value nests, and whether
all its numbers are integers of one word. -/

namespace BulkActions.Json

theorem sizeOf_member_lt {fields : List (String × Json)} {binding : String × Json}
    (member : binding ∈ fields) : sizeOf binding.2 < sizeOf fields := by
  have smaller := List.sizeOf_lt_of_mem member
  obtain ⟨name, v⟩ := binding
  rw [Prod.mk.sizeOf_spec] at smaller
  exact Nat.lt_of_le_of_lt (Nat.le_add_left _ _) smaller

/-- What holds of a value as soon as it holds of its items or members, holds of every value. -/
@[elab_as_elim]
theorem induction {motive : Json → Prop} (null : motive .null) (bool : ∀ b, motive (.bool b))
    (num : ∀ n, motive (.num n)) (str : ∀ s, motive (.str s))
    (arr : ∀ items, (∀ v ∈ items, motive v) → motive (.arr items))
    (obj : ∀ fields, (∀ binding ∈ fields, motive binding.2) → motive (.obj fields)) :
    ∀ v, motive v
  | .null => null
  | .bool b => bool b
  | .num n => num n
  | .str s => str s
  | .arr items => arr items fun v _ => induction null bool num str arr obj v
  | .obj fields => obj fields fun binding member =>
    have := sizeOf_member_lt member
    induction null bool num str arr obj binding.2
termination_by v => v

mutual

/-- How many arrays and objects are open at the innermost place. -/
def depth : Json → Nat
  | .arr items => depthItems items + 1
  | .obj fields => depthFields fields + 1
  | _ => 0

def depthItems : List Json → Nat
  | [] => 0
  | v :: rest => max v.depth (depthItems rest)

def depthFields : List (String × Json) → Nat
  | [] => 0
  | (_, v) :: rest => max v.depth (depthFields rest)

end

/-- The integers of a signed or an unsigned word. -/
def isWord (n : Int) : Bool := -Int.pow 2 63 ≤ n && n < Int.pow 2 64

mutual

/-- Whether every number is an integer of a word. -/
def wholeNumbers : Json → Bool
  | .num (.int n) => isWord n
  | .num (.float _) => false
  | .arr items => wholeItems items
  | .obj fields => wholeFields fields
  | _ => true

def wholeItems : List Json → Bool
  | [] => true
  | v :: rest => v.wholeNumbers && wholeItems rest

def wholeFields : List (String × Json) → Bool
  | [] => true
  | (_, v) :: rest => v.wholeNumbers && wholeFields rest

end

theorem depthItems_le_iff (items : List Json) (limit : Nat) :
    depthItems items ≤ limit ↔ ∀ v ∈ items, v.depth ≤ limit := by
  induction items with
  | nil => simp [depthItems]
  | cons v rest ih => simp only [depthItems, Nat.max_le, ih, List.forall_mem_cons]

theorem depthFields_le_iff (fields : List (String × Json)) (limit : Nat) :
    depthFields fields ≤ limit ↔ ∀ binding ∈ fields, binding.2.depth ≤ limit := by
  induction fields with
  | nil => simp [depthFields]
  | cons binding rest ih => simp only [depthFields, Nat.max_le, ih, List.forall_mem_cons]

theorem wholeItems_iff (items : List Json) :
    wholeItems items = true ↔ ∀ v ∈ items, v.wholeNumbers = true := by
  induction items with
  | nil => simp [wholeItems]
  | cons v rest ih => simp [wholeItems, ih]

theorem wholeFields_iff (fields : List (String × Json)) :
    wholeFields fields = true ↔ ∀ binding ∈ fields, binding.2.wholeNumbers = true := by
  induction fields with
  | nil => simp [wholeFields]
  | cons binding rest ih => simp [wholeFields, ih]

end BulkActions.Json
