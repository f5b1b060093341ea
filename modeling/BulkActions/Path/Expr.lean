import BulkActions.Path.Token

/-! Path expressions. -/

namespace BulkActions.Path

inductive Expr where
  /-- The document. -/
  | root
  /-- The value under test in a filter. -/
  | here
  | all
  | key (name : String)
  | keys (names : List String)
  | number (value : Float)
  | truth (value : Bool)
  | range (first last : Option Int) (step : Option Nat)
  | union (indices : List Int)
  /-- One step down. -/
  | child (base step : Expr)
  /-- A step taken at every depth. -/
  | deep (base step : Expr)
  /-- Every depth, before a subscript. -/
  | depths (base : Expr)
  | subscript (base inner : Expr)
  | compare (op : Operator) (left right : Expr)

end BulkActions.Path
