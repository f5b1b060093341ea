import BulkActions.Path.Node
import BulkActions.Path.Token

/-! Operands of a filter and their comparison. -/

namespace BulkActions.Path

/-- What the last step of an operand's path looked for. -/
inductive Sought where
  | anything
  | name (key : String)
  deriving DecidableEq

inductive Term where
  | text (value : String)
  | number (value : Float)
  | truth (value : Bool)
  /-- Nodes reached by a path. `owners` are the tested values they belong to, once a step has told
  them apart from the nodes. -/
  | nodes (owners : Option (List Node)) (sought : Option Sought) (reached : List Node)
  deriving DecidableEq

/-- The operand a value is by itself. -/
def Term.ofScalar? : Json → Option Term
  | .str s => some (.text s)
  | .num n => some (.number (n.toDouble))
  | .bool b => some (.truth b)
  | _ => none

/-- The operand of a path that starts at the document. -/
def Term.ofNodes (nodes : List Node) : Term :=
  match nodes with
  | [n] => (Term.ofScalar? n.value).getD (.nodes none none nodes)
  | _ => .nodes none none nodes

def compareTexts (op : Operator) (a b : String) : Bool :=
  match op with
  | .eq => a == b
  | .ne => a != b
  | .lt => a < b
  | .le => !(b < a)
  | .gt => b < a
  | .ge => !(a < b)
  | .both => !a.isEmpty && !b.isEmpty
  | .either => !a.isEmpty || !b.isEmpty

def compareNumbers (op : Operator) (a b : Float) : Bool :=
  match op with
  | .eq => a == b
  | .ne => a != b
  | .lt => a < b
  | .le => a ≤ b
  | .gt => b < a
  | .ge => b ≤ a
  | .both => true
  | .either => true

def compareTruths (op : Operator) (a b : Bool) : Bool :=
  match op with
  | .eq => a == b
  | .ne => a != b
  | .lt => !a && b
  | .le => !a || b
  | .gt => a && !b
  | .ge => a || !b
  | .both => a && b
  | .either => a || b

/-- Scalars of one kind compare; those of different kinds never do. -/
def compareScalars (op : Operator) : Term → Term → Bool
  | .text a, .text b => compareTexts op a b
  | .number a, .number b => compareNumbers op a b
  | .truth a, .truth b => compareTruths op a b
  | _, _ => false

def compareValue (op : Operator) (v : Json) (scalar : Term) : Bool :=
  match Term.ofScalar? v with
  | some t => compareScalars op t scalar
  | none => false

/-- A node stands for itself, or for its member of the name that was sought. -/
def satisfies (op : Operator) (sought : Option Sought) (scalar : Term) (n : Node) : Bool :=
  match n.value, sought with
  | .obj fields, some (.name key) =>
    match Assoc.find? fields key with
    | some v => compareValue op v scalar
    | none => false
  | v, _ => compareValue op v scalar

/-- Keeps the first of equal values. -/
def distinctValues (nodes : List Node) : List Node :=
  (nodes.foldl
    (fun (kept : List Node) n => if kept.any (·.value.same n.value) then kept else n :: kept)
    []).reverse

/-- Nodes of the left list that an operator keeps against the right list. -/
def joinNodes (op : Operator) (left right : List Node) : List Node :=
  match op with
  | .eq | .both =>
    left.flatMap fun x => right.flatMap fun y => if x.value.same y.value then [x] else []
  | .ne =>
    left.flatMap fun x => right.flatMap fun y => if x.value.same y.value then [] else [x]
  | .either => distinctValues (left ++ right)
  | .lt | .le | .gt | .ge => []

/-- The owners of found nodes: an owner once for every pair of a member and an equal found node. -/
def ownersOf (owners found : List Node) : List Node :=
  owners.flatMap fun owner =>
    match owner.value with
    | .obj fields =>
      fields.flatMap fun (_, v) => found.flatMap fun n => if v.same n.value then [owner] else []
    | _ => []

def isScalar : Term → Bool
  | .nodes .. => false
  | _ => true

/-- A list of nodes against another operand. -/
def compareNodes (op : Operator) (owners : Option (List Node)) (sought : Option Sought)
    (reached : List Node) (other : Term) : Term :=
  let found :=
    match other with
    | .nodes otherOwners _ others =>
      match owners, otherOwners with
      | some mine, _ => joinNodes op mine others
      | none, some theirs => joinNodes op reached theirs
      | none, none => joinNodes op reached others
    | scalar => reached.filter (satisfies op sought scalar)
  if found.isEmpty then .truth false
  else
    match owners with
    | none => .nodes none none found
    | some mine =>
      if isScalar other then .nodes (some (ownersOf mine found)) none found
      else .nodes (some mine) none found

def compare (op : Operator) (left right : Term) : Term :=
  match left, right with
  | .nodes owners sought reached, other => compareNodes op owners sought reached other
  | scalar, .nodes owners sought reached =>
    compareNodes op.flip owners sought reached scalar
  | a, b => .truth (compareScalars op a b)

end BulkActions.Path
