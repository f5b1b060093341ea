import BulkActions.Json.Parser
import BulkActions.Path.Parser

/-! What a path comes to on a document. A text that holds a document is read first; one match stands
for itself, several form an array. How the values are found is left to an evaluator. -/

namespace BulkActions

/-- A value that stands somewhere in a document. -/
inductive Json.Part (document : Json) : Json → Prop where
  | self : Part document document
  | item {items : List Json} {v : Json} (whole : Part document (.arr items)) (member : v ∈ items) :
      Part document v
  | member {fields : Assoc String Json} {binding : String × Json}
      (whole : Part document (.obj fields)) (member : binding ∈ fields) : Part document binding.2

namespace Path

/-- A path that is no expression; `offset` bytes of it are in order. -/
structure Error where
  path : String
  offset : Nat
  deriving DecidableEq, Repr

/-- The path with a row of carets below the part that is in order. -/
def Error.reason (e : Error) : String :=
  s!"path error: \n{e.path}\n" ++ String.ofList (List.replicate e.offset '^') ++ "\n"

def Error.message (e : Error) : String := s!"Invalid JSONPath expression '{e.path}': {e.reason}"

def expression? (path : String) : Except Error Expr :=
  let text := path.toList
  (parseExpr text).mapError fun left => ⟨path, Json.byteCount text - Json.byteCount left⟩

/-- The document a value stands for: a text that is one is read, any other is itself. -/
def documentOf : Json → Json
  | .str text => (Json.parse? text).getD (.str text)
  | v => v

inductive Match where
  | found (value : Json)
  | missing
  deriving DecidableEq

def Match.isFound : Match → Bool
  | .found _ => true
  | .missing => false

def Match.toOption : Match → Option Json
  | .found v => some v
  | .missing => none

def Match.ofSelection : List Json → Match
  | [] => .missing
  | [v] => .found v
  | vs => .found (.arr vs)

/-- What follows an expression through a document. Whoever asks relies on this alone: every expression
is answered, by values of the document. It completes an evaluator that crashes on some of them. -/
class Evaluator where
  select : Expr → Json → List Json
  part : ∀ (e : Expr) (document : Json), ∀ v ∈ select e document, document.Part v

/-- What a path comes to, unless it is no expression. -/
def Evaluator.answer [Evaluator] (data : Json) (path : String) : Except Error Match :=
  match expression? path with
  | .error e => .error e
  | .ok e => .ok (.ofSelection (Evaluator.select e (documentOf data)))

end Path

end BulkActions
