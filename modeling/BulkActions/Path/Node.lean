import BulkActions.Json.Basic

/-! Values at their places in a document. Two nodes are the same node only if they stand at the
same place, whatever their values. -/

namespace BulkActions.Path

/-- A value and the way down to it, innermost step first. -/
structure Node where
  place : List Nat
  value : Json
  deriving DecidableEq

def Node.root (document : Json) : Node := ⟨[], document⟩

namespace Node

/-- Values side by side, numbered from `start` on. -/
def numbered (place : List Nat) (start : Nat) : List Json → List Node
  | [] => []
  | v :: rest => ⟨start :: place, v⟩ :: numbered place (start + 1) rest

/-- The items or members of a value, in order. -/
def children (n : Node) : List Node :=
  match n.value with
  | .arr items => numbered n.place 0 items
  | .obj fields => numbered n.place 0 (fields.map Prod.snd)
  | _ => []

/-- The items of an array, nothing for other values. -/
def items (n : Node) : List Node :=
  match n.value with
  | .arr items => numbered n.place 0 items
  | _ => []

def isArray (n : Node) : Bool :=
  match n.value with
  | .arr _ => true
  | _ => false

def memberFrom (place : List Nat) (name : String) : Nat → List (String × Json) → Option Node
  | _, [] => none
  | i, (key, v) :: rest =>
    if key = name then some ⟨i :: place, v⟩ else memberFrom place name (i + 1) rest

/-- The member of an object with this name. -/
def member? (n : Node) (name : String) : Option Node :=
  match n.value with
  | .obj fields => memberFrom n.place name 0 fields
  | _ => none

def hasMember (n : Node) (name : String) : Bool := (n.member? name).isSome

/-- Counts a negative index from the end; an index out of range stops at the nearer end. -/
def resolve (index : Int) (length : Nat) : Nat :=
  if index < 0 then (index + length).toNat else min index.toNat length

/-- The item at an index counted from either end. -/
def item? (n : Node) (index : Int) : Option Node := n.items[resolve index n.items.length]?

mutual

/-- What `visit` gives at a value, then at everything below it in document order. -/
def walkFrom (visit : Node → List Node) (place : List Nat) : Json → List Node
  | .arr items => visit ⟨place, .arr items⟩ ++ walkItems visit place 0 items
  | .obj fields => visit ⟨place, .obj fields⟩ ++ walkFields visit place 0 fields
  | leaf => visit ⟨place, leaf⟩

def walkItems (visit : Node → List Node) (place : List Nat) : Nat → List Json → List Node
  | _, [] => []
  | i, v :: rest => walkFrom visit (i :: place) v ++ walkItems visit place (i + 1) rest

def walkFields (visit : Node → List Node) (place : List Nat) :
    Nat → List (String × Json) → List Node
  | _, [] => []
  | i, (_, v) :: rest => walkFrom visit (i :: place) v ++ walkFields visit place (i + 1) rest

end

def walk (visit : Node → List Node) (n : Node) : List Node := walkFrom visit n.place n.value

mutual

/-- The objects with a member of this name among a value and, where it is an array, among the
items of it and of the arrays directly inside it. -/
def holdersFrom (name : String) (place : List Nat) : Json → List Node
  | .arr items => holderItems name place 0 items
  | v => if hasMember ⟨place, v⟩ name then [⟨place, v⟩] else []

def holderItems (name : String) (place : List Nat) : Nat → List Json → List Node
  | _, [] => []
  | i, v :: rest => holdersFrom name (i :: place) v ++ holderItems name place (i + 1) rest

end

def holders (name : String) (n : Node) : List Node := holdersFrom name n.place n.value

/-- Keeps the first of the nodes at each place. -/
def distinct (nodes : List Node) : List Node :=
  (nodes.foldl
    (fun (kept : List Node) n => if kept.any (·.place == n.place) then kept else n :: kept)
    []).reverse

end Node

end BulkActions.Path
