import BulkActions.Decimal.Binary
import BulkActions.Path.Expr
import BulkActions.Path.Term

/-! Evaluation of an expression. The expression is laid out as a list of instructions, and a
machine with a stack of open steps and a stack of filter operands runs them from left to right. -/

namespace BulkActions.Path

inductive Instruction where
  | root
  | here
  | all
  | key (name : String)
  | keys (names : List String)
  | number (value : Float)
  | truth (value : Bool)
  | range (first last : Option Int) (step : Option Nat)
  | union (indices : List Int)
  | child
  | deep
  | openSubscript
  | closeSubscript
  | compare (op : Operator)
  deriving DecidableEq

def Expr.instructions : Expr → List Instruction
  | .root => [.root]
  | .here => [.here]
  | .all => [.all]
  | .key name => [.key name]
  | .keys names => [.keys names]
  | .number value => [.number value]
  | .truth value => [.truth value]
  | .range first last step => [.range first last step]
  | .union indices => [.union indices]
  | .child base step => base.instructions ++ .child :: step.instructions
  | .deep base step => base.instructions ++ .deep :: step.instructions
  | .depths base => base.instructions ++ [.deep]
  | .subscript base inner =>
    base.instructions ++ .openSubscript :: inner.instructions ++ [.closeSubscript]
  | .compare op left right => left.instructions ++ right.instructions ++ [.compare op]

/-- A step that was opened and has not met its key yet. -/
inductive Pending where
  | child
  | deep
  | subscript
  deriving DecidableEq

/-- The nodes reached so far, the open steps and the operands. An operand is absent while a filter
stands at the value under test itself. -/
structure Frame where
  current : Option (List Node)
  pending : List Pending
  operands : List (Option Term)

/-- `inner` evaluates a path that starts at the document inside a filter. -/
structure Machine where
  frame : Frame
  inner : Option Frame

def Machine.start : Machine := ⟨⟨none, [], []⟩, none⟩

namespace Frame

def dropPending (f : Frame) : Frame := { f with pending := f.pending.drop 1 }

def dropOperand (f : Frame) : Frame := { f with operands := f.operands.drop 1 }

def push (f : Frame) (t : Term) : Frame := { f with operands := some t :: f.operands }

def mapCurrent (f : Frame) (g : List Node → List Node) : Frame :=
  { f with current := f.current.map g }

/-- A step that reaches nothing also gives up the operand on top. -/
def stepTo (f : Frame) (g : List Node → List Node) : Frame :=
  match f.current with
  | none => f
  | some nodes =>
    let reached := g nodes
    let next := { f with current := some reached }
    if reached.isEmpty then next.dropOperand else next

def childrenOf (nodes : List Node) : List Node := nodes.flatMap Node.children

/-- Everything below the nodes. -/
def below (nodes : List Node) : List Node := nodes.flatMap (Node.walk Node.children)

def named (names : List String) (nodes : List Node) : List Node :=
  nodes.flatMap fun n => names.filterMap n.member?

def namedBelow (name : String) (nodes : List Node) : List Node :=
  nodes.flatMap (Node.walk fun n => (n.member? name).toList)

/-- A number as an index from the front alone: toward zero, within an unsigned word. -/
def frontIndexOf (x : Float) : Nat := x.toUInt64.toNat

/-- A number as an index from either end: toward zero, within a signed word. -/
def indexOf (x : Float) : Int :=
  if Decimal.isNegative x.toBits then -(min (frontIndexOf (-x)) (Nat.pow 2 63) : Nat)
  else (min (frontIndexOf x) (Nat.pow 2 63 - 1) : Nat)

/-- The item at an index of every array, and of the arrays among the members of an object. -/
def indexed (x : Float) (nodes : List Node) : List Node :=
  nodes.flatMap fun n =>
    if n.isArray then (n.item? (indexOf x)).toList
    else n.children.filterMap fun member => member.item? (indexOf x)

def indexedBelow (x : Float) (nodes : List Node) : List Node :=
  nodes.flatMap (Node.walk fun n => (n.items[frontIndexOf x]?).toList)

/-- The outcome of narrowing a filter's values: the nodes kept, the positions of the values that
did not match, and what was sought. -/
structure Narrowed where
  kept : List Node
  unmatched : List Nat
  sought : Sought

/-- Everything below that has a member of this name. -/
def holdersBelow (name : String) (nodes : List Node) : Narrowed where
  kept := nodes.flatMap (Node.walk fun n => if n.hasMember name then [n] else [])
  unmatched := []
  sought := .anything

/-- The values that have a member of this name themselves, or hold items that do. -/
def holdersAmong (name : String) (nodes : List Node) : Narrowed where
  kept := Node.distinct (nodes.flatMap (Node.holders name))
  unmatched := nodes.zipIdx.filterMap fun (n, i) => if n.hasMember name then none else some i
  sought := .name name

/-- The values with each object replaced by its member of the name sought last. -/
def focus (sought : Option Sought) (nodes : List Node) : List Node :=
  match sought with
  | some (.name key) => nodes.map fun n => (n.member? key).getD n
  | _ => nodes

/-- Narrows the operand on top, or the current nodes where the operand is absent. Nothing can be
narrowed inside a scalar. -/
def narrow (f : Frame) (narrowing : List Node → Narrowed) : Option Frame :=
  match f.operands with
  | [] => some f
  | none :: rest =>
    match f.current with
    | none => some { f with operands := rest }
    | some nodes =>
      let r := narrowing nodes
      some { f with operands := some (.nodes none (some r.sought) r.kept) :: rest }
  | some (.nodes owners sought reached) :: rest =>
    let r := narrowing (focus sought reached)
    let owners :=
      match owners with
      | some owners => owners
      | none => (reached.zipIdx.filter fun (_, i) => !r.unmatched.contains i).map Prod.fst
    some { f with operands := some (.nodes (some owners) (some r.sought) r.kept) :: rest }
  | some _ :: _ => none

def applyAll (f : Frame) : Frame :=
  let f := if f.pending.head? = some .subscript then f.dropPending else f
  match f.pending with
  | .deep :: _ => f.dropPending.mapCurrent below
  | .child :: _ => f.dropPending.mapCurrent childrenOf
  | _ => f.mapCurrent childrenOf

/-- Inside a subscript a name waits for the closing bracket. -/
def applyKey (f : Frame) (name : String) : Option Frame :=
  match f.pending with
  | [] => some f
  | .subscript :: _ => some (f.push (.text name))
  | .deep :: _ =>
    let f := f.dropPending
    if f.operands.isEmpty then some (f.mapCurrent (namedBelow name))
    else f.narrow (holdersBelow name)
  | .child :: _ =>
    let f := f.dropPending
    if f.operands.isEmpty then some (f.stepTo (named [name]))
    else f.narrow (holdersAmong name)

/-- Several names, indices or a slice need a subscript outside of every filter. -/
def select (f : Frame) (g : Frame → List Node → List Node) : Option Frame :=
  if f.operands.isEmpty then some (f.dropPending.mapCurrent (g f)) else none

/-- The places `first`, `first + step`, … below `last`. -/
def slice (first last step : Nat) (items : List Node) : List Node :=
  (items.zipIdx.filter fun (_, i) =>
    decide (first ≤ i ∧ i < last ∧ (i - first) % step = 0)).map Prod.fst

def sliced (first last : Option Int) (step : Nat) (nodes : List Node) : List Node :=
  nodes.flatMap fun n =>
    let length := n.items.length
    let first := (first.map fun i => Node.resolve i length).getD 0
    let last := (last.map fun i => Node.resolve i length).getD length
    slice first last step n.items

def united (indices : List Int) (nodes : List Node) : List Node :=
  nodes.flatMap fun n => indices.filterMap n.item?

/-- The operand on top, where there is one and it is present. An absent one is lost. -/
def popTerm (f : Frame) : Option Term × Frame :=
  match f.operands with
  | [] => (none, f)
  | t :: rest => (t, { f with operands := rest })

/-- What a subscript's operand selects. -/
def resolveOperand (f : Frame) : Frame :=
  match f.popTerm with
  | (none, f) => f
  | (some (.number x), f) => f.stepTo (indexed x)
  | (some (.text name), f) => f.stepTo (named [name])
  | (some (.nodes owners _ reached), f) =>
    { f with current := some (if reached.isEmpty then [] else owners.getD reached) }
  | (some (.truth false), f) => { f with current := some [] }
  | (some (.truth true), f) => f

/-- Closes a subscript: inside another subscript a name narrows the filter, below a deep step a
name or an index is taken at every depth, and anything else selects from the current nodes. -/
def closeSubscript (f : Frame) : Option Frame :=
  match f.pending with
  | _ :: .subscript :: _ =>
    match f.popTerm with
    | (some (.text name), f) => (f.narrow (holdersAmong name)).map dropPending
    | (some t, f) => some (f.push t).resolveOperand.dropPending
    | (none, f) => some f.resolveOperand.dropPending
  | _ :: .deep :: rest =>
    match { f with pending := rest }.popTerm with
    | (some (.number x), f) => some (f.mapCurrent (indexedBelow x)).dropOperand
    | (some (.text name), f) => some (f.mapCurrent (namedBelow name)).dropOperand
    | (some t, f) => some (f.push t).resolveOperand.dropPending
    | (none, f) => some f.resolveOperand.dropPending
  | _ => some f.resolveOperand.dropPending

/-- A filter that starts at the value under test. Right below a deep step it tests everything
below. -/
def applyHere (f : Frame) : Frame :=
  match f.pending with
  | .subscript :: .deep :: rest =>
    let f := { f with pending := .subscript :: rest }.mapCurrent below
    { f with operands := none :: f.operands }
  | _ => { f with operands := none :: f.operands }

/-- An absent operand stands for the current nodes. -/
def operand (f : Frame) : Option Term → Term
  | some t => t
  | none => .nodes none none (f.current.getD [])

def applyCompare (f : Frame) (op : Operator) : Option Frame :=
  match f.operands with
  | right :: left :: rest =>
    some { f with operands := some (Path.compare op (f.operand left) (f.operand right)) :: rest }
  | _ => none

/-- One instruction inside a frame; the starts of paths and comparisons belong to the machine. -/
def run (f : Frame) : Instruction → Option Frame
  | .all => some f.applyAll
  | .key name => f.applyKey name
  | .keys names => f.select fun _ => named names
  | .number value => some (f.push (.number value))
  | .truth value => some (f.push (.truth value))
  | .range first last step =>
    match step with
    | some 0 => if (f.current.getD []).any Node.isArray then none else f.select fun _ _ => []
    | step => f.select fun _ => sliced first last (step.getD 1)
  | .union indices => f.select fun _ => united indices
  | .child => some { f with pending := .child :: f.pending }
  | .deep => some { f with pending := .deep :: f.pending }
  | .openSubscript => some { f with pending := .subscript :: f.pending }
  | .closeSubscript => f.closeSubscript
  | .here => some f.applyHere
  | .compare op => f.applyCompare op
  | .root => some f

end Frame

/-- A new path or a comparison ends the path that an operand started at the document. -/
def Machine.settle (m : Machine) : Instruction → Machine
  | .root | .here | .compare _ =>
    match m.inner with
    | none => m
    | some f => ⟨m.frame.push (Term.ofNodes (f.current.getD [])), none⟩
  | _ => m

/-- One instruction. Nothing comes of an operator without operands, or of a choice of several
members inside a filter. -/
def Machine.step (document : Json) (m : Machine) (i : Instruction) : Option Machine :=
  let m := m.settle i
  match m.inner with
  | some f => (f.run i).map fun f => { m with inner := some f }
  | none =>
    match i, m.frame.current with
    | .root, none => some { m with frame := { m.frame with current := some [Node.root document] } }
    | .root, some _ => some { m with inner := some ⟨some [Node.root document], [], []⟩ }
    | i, _ => (m.frame.run i).map fun f => { m with frame := f }

def Machine.runAll (document : Json) : Machine → List Instruction → Option Machine
  | m, [] => some m
  | m, i :: rest =>
    match m.step document i with
    | none => none
    | some m => m.runAll document rest

/-- The nodes an expression selects. -/
def Expr.select? (document : Json) (e : Expr) : Option (List Node) :=
  (Machine.start.runAll document e.instructions).map fun m => m.frame.current.getD []

end BulkActions.Path
