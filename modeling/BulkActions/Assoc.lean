/-! Bindings in order: inserting keeps the position of a key already present, and removing one
moves the last binding into its place. -/

namespace BulkActions

/-- Bindings in order. The operations keep keys distinct. -/
abbrev Assoc (κ α : Type) := List (κ × α)

namespace Assoc

variable {κ α β : Type} [DecidableEq κ]

def find? (bindings : Assoc κ α) (key : κ) : Option α := List.lookup key bindings

def keys (bindings : Assoc κ α) : List κ := bindings.map Prod.fst

/-- Replaces the value in place, or appends a new binding. -/
def insert : Assoc κ α → κ → α → Assoc κ α
  | [], key, value => [(key, value)]
  | (other, old) :: rest, key, value =>
    if other = key then (other, value) :: rest else (other, old) :: insert rest key value

/-- Removes a binding by moving the last one into its place. -/
def erase : Assoc κ α → κ → Assoc κ α
  | [], _ => []
  | (other, value) :: rest, key =>
    if other = key then
      match rest.getLast? with
      | none => []
      | some last => last :: rest.dropLast
    else (other, value) :: erase rest key

/-- Of equal keys the first position and the last value are kept. -/
def ofList (bindings : List (κ × α)) : Assoc κ α :=
  bindings.foldl (fun sofar binding => insert sofar binding.1 binding.2) []

/-- A binding where there is a value, none otherwise. -/
def optional (key : κ) (value : Option α) : Assoc κ α := (value.map fun v => (key, v)).toList

theorem find?_cons (other : κ) (value : α) (rest : Assoc κ α) (key : κ) :
    find? ((other, value) :: rest) key = if key = other then some value else find? rest key := by
  by_cases same : key = other
  · simp [find?, same]
  · have differs : (key == other) = false := by simpa using same
    simp [find?, List.lookup_cons, same, differs]

theorem find?_insert (bindings : Assoc κ α) (key other : κ) (value : α) :
    (bindings.insert key value).find? other =
      if other = key then some value else bindings.find? other := by
  induction bindings with
  | nil => simp [insert, find?_cons, show find? ([] : Assoc κ α) other = none from rfl]
  | cons binding rest ih =>
    obtain ⟨name, old⟩ := binding
    by_cases same : name = key
    · subst same
      by_cases hit : other = name <;> simp [insert, find?_cons, hit]
    · by_cases hit : other = name
      · subst hit
        simp [insert, find?_cons, same]
      · simp [insert, find?_cons, same, hit, ih]

end Assoc

end BulkActions
