import BulkActions.Path.Answer
import BulkActions.Path.Machine

/-! Paths against documents, as the evaluator at hand follows them. There are expressions it does not
get through. -/

namespace BulkActions.Path

/-- Why a path comes to nothing at all. -/
inductive Stop where
  | refused (e : Error)
  /-- The evaluator crashes, and whoever has asked it goes down with it: at a filter whose operands do
  not add up, or at a slice of an array in steps of zero. -/
  | crashed
  deriving DecidableEq, Repr

/-- The values a path selects, in order. -/
def select (document : Json) (path : String) : Except Stop (List Json) :=
  match expression? path with
  | .error e => .error (.refused e)
  | .ok e =>
    match e.select? document with
    | none => .error .crashed
    | some nodes => .ok (nodes.map (·.value))

def evaluate (data : Json) (path : String) : Except Stop Match :=
  match select (documentOf data) path with
  | .error stop => .error stop
  | .ok values => .ok (.ofSelection values)

/-- Whether a path can be evaluated, and if not, why. -/
def test (path : String) (data : Json) : Except Stop Unit :=
  match select (documentOf data) path with
  | .error stop => .error stop
  | .ok _ => .ok ()

def crashes (data : Json) (path : String) : Bool :=
  match evaluate data path with
  | .error .crashed => true
  | _ => false

end BulkActions.Path
