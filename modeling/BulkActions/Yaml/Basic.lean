import BulkActions.Decimal.Binary
import BulkActions.Json.Basic

/-! Configuration documents: scalars, sequences, and mappings whose keys may be any value. Keys are
found by their signatures, which leave out what does not tell two keys apart. -/

namespace BulkActions

inductive Scalar where
  | null
  | truth (value : Bool)
  | number (value : Number)
  | text (value : String)
  deriving DecidableEq, Inhabited

inductive Yaml where
  | scalar (value : Scalar)
  | sequence (items : List Yaml)
  | mapping (entries : List (Yaml × Yaml))
  /-- A value marked with a name of the document's own. -/
  | tagged (tag : String) (value : Yaml)
  deriving Inhabited

namespace Yaml

mutual

def decEq : (a b : Yaml) → Decidable (a = b)
  | .scalar a, .scalar b => decidable_of_iff (a = b) (by simp)
  | .sequence a, .sequence b =>
    have := decEqItems a b
    decidable_of_iff (a = b) (by simp)
  | .mapping a, .mapping b =>
    have := decEqEntries a b
    decidable_of_iff (a = b) (by simp)
  | .tagged s a, .tagged t b =>
    have := decEq a b
    decidable_of_iff (s = t ∧ a = b) (by simp)
  | .scalar _, .sequence _ | .scalar _, .mapping _ | .scalar _, .tagged _ _
  | .sequence _, .scalar _ | .sequence _, .mapping _ | .sequence _, .tagged _ _
  | .mapping _, .scalar _ | .mapping _, .sequence _ | .mapping _, .tagged _ _
  | .tagged _ _, .scalar _ | .tagged _ _, .sequence _ | .tagged _ _, .mapping _ =>
    isFalse (by simp)

def decEqItems : (a b : List Yaml) → Decidable (a = b)
  | [], [] => isTrue rfl
  | [], _ :: _ | _ :: _, [] => isFalse (by simp)
  | a :: as, b :: bs =>
    have := decEq a b
    have := decEqItems as bs
    decidable_of_iff (a = b ∧ as = bs) (by simp)

def decEqEntries : (a b : List (Yaml × Yaml)) → Decidable (a = b)
  | [], [] => isTrue rfl
  | [], _ :: _ | _ :: _, [] => isFalse (by simp)
  | (k, a) :: as, (l, b) :: bs =>
    have := decEq k l
    have := decEq a b
    have := decEqEntries as bs
    decidable_of_iff ((k = l ∧ a = b) ∧ as = bs) (by simp)

end

instance : DecidableEq Yaml := decEq

def null : Yaml := .scalar .null

def text (value : String) : Yaml := .scalar (.text value)

/-- What a value is apart from its mark. -/
def untagged : Yaml → Yaml
  | .tagged _ v => untagged v
  | v => v

end Yaml

/-- A text behind its length, so that it cannot run into what follows. -/
def sized (text : String) : String := s!"{text.length}:{text}"

/-- The bits of a double, the same for both zeros and for everything that is not a number. -/
def quantityBits (x : Float) : Nat :=
  let magnitude := x.toBits.toNat % Nat.pow 2 63
  if magnitude = 0 then 0
  else if Decimal.exponentField x.toBits = 2047 && Decimal.fractionField x.toBits ≠ 0 then
    Nat.pow 2 64
  else x.toBits.toNat

/-- An integer and a double are different keys even where they denote the same quantity. -/
def Scalar.signature : Scalar → String
  | .null => "n"
  | .truth true => "t"
  | .truth false => "f"
  | .number (.int n) => s!"i{n};"
  | .number (.float x) => s!"d{quantityBits x};"
  | .text s => "s" ++ sized s

namespace Yaml

mutual

/-- Two values are the same key where their signatures are equal. The order of the entries of a
mapping leaves no trace. -/
def signature : Yaml → String
  | .scalar s => s.signature
  | .sequence items => s!"[{String.join (itemSignatures items)}]"
  | .mapping entries =>
    let parts := (entrySignatures entries).mergeSort fun a b => a ≤ b
    "\x7b" ++ String.join parts ++ "\x7d"
  | .tagged tag v => "!" ++ sized tag ++ signature v

def itemSignatures : List Yaml → List String
  | [] => []
  | item :: rest => signature item :: itemSignatures rest

def entrySignatures : List (Yaml × Yaml) → List String
  | [] => []
  | (key, value) :: rest => (signature key ++ signature value) :: entrySignatures rest

end

/-- Whether two values are the same key. Texts are compared as they are. -/
def isSameKey : Yaml → Yaml → Bool
  | .scalar (.text a), .scalar (.text b) => a == b
  | a, b => a.signature == b.signature

/-- Entries in order. The operations keep keys distinct. -/
abbrev Entries := List (Yaml × Yaml)

namespace Entries

def find? (entries : Entries) (key : Yaml) : Option Yaml :=
  (List.find? (fun entry => entry.1.isSameKey key) entries).map (·.2)

/-- Replaces the value in place, or appends a new entry. -/
def insert : Entries → Yaml → Yaml → Entries
  | [], key, value => [(key, value)]
  | (other, old) :: rest, key, value =>
    if other.isSameKey key then (other, value) :: rest
    else (other, old) :: insert rest key value

/-- Removes an entry by moving the last one into its place. -/
def erase : Entries → Yaml → Entries
  | [], _ => []
  | (other, value) :: rest, key =>
    if other.isSameKey key then
      match rest.getLast? with
      | none => []
      | some last => last :: rest.dropLast
    else (other, value) :: erase rest key

end Entries

/-- The value of a key, nothing where there is no mapping. -/
def get? (v key : Yaml) : Option Yaml :=
  match v.untagged with
  | .mapping entries => Entries.find? entries key
  | _ => none

/-- Removes the entries of these names one after the other. -/
def eraseAll (names : List String) : Yaml → Yaml
  | .mapping entries =>
    .mapping (names.foldl (fun left name => Entries.erase left (text name)) entries)
  | v => v

mutual

/-- How many collections are open at the deepest point. -/
def nesting : Yaml → Nat
  | .scalar _ => 0
  | .sequence items => nestingItems items + 1
  | .mapping entries => nestingEntries entries + 1
  | .tagged _ v => nesting v

def nestingItems : List Yaml → Nat
  | [] => 0
  | item :: rest => max (nesting item) (nestingItems rest)

def nestingEntries : List (Yaml × Yaml) → Nat
  | [] => 0
  | (key, value) :: rest => max (max (nesting key) (nesting value)) (nestingEntries rest)

end

end Yaml

end BulkActions
