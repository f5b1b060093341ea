import BulkActions.Decimal.Literal
import BulkActions.Journal.Entry
import BulkActions.Text.Alphanumeric
import BulkActions.Text.Blank

/-! Which entries a journal takes. A filter is a list of directives, each of which sets the gravest
level left out below an origin. -/

namespace BulkActions.Journal

/-- A field an entry has to carry, perhaps with a value of its own. -/
structure FieldTest where
  name : String
  value : Option String
  deriving DecidableEq, Repr

/-- Entries of an origin whose path starts with the target are taken up to a rank; rank zero takes
none. Without a target every origin is meant. A span or a field narrows the directive further. -/
structure Directive where
  target : Option String
  span : Option String
  field : Option FieldTest
  rank : Nat
  deriving DecidableEq, Repr

abbrev Filter := List Directive

namespace Filter

def namedRanks : List (String × Nat) :=
  [("off", 0), ("error", 1), ("warn", 2), ("info", 3), ("debug", 4), ("trace", 5)]

/-- A level by its name in any case, or by its number. -/
def rank? (text : String) : Option Nat :=
  match (Decimal.count? text.toList).filter (· ≤ 5) with
  | some rank => some rank
  | none => namedRanks.lookup text.toLower

/-- Everything, for a target without a level. -/
def fullRank : Nat := 5

/-- The first character of a target or a level. -/
def startsName (c : Char) : Bool := Text.isAlphanumeric c || ['-', ':', '_'].contains c

/-- A text alone is a level if it can be, else a target. -/
def alone (text : String) : Directive :=
  match rank? text with
  | some rank => ⟨none, none, none, rank⟩
  | none => ⟨some text, none, none, fullRank⟩

/-- The rank behind an equals sign. Blanks around the directive spoil it. -/
def level? (padded : Bool) (cs : List Char) : Option Nat :=
  if padded then none
  else if cs.isEmpty then some fullRank
  else rank? (String.ofList cs)

/-- What follows a closing bracket: nothing, or a level. -/
def closed? (padded : Bool) (d : Directive) : List Char → Option Directive
  | [] => some d
  | '=' :: level => (level? padded level).map fun rank => { d with rank := rank }
  | _ => none

def fieldTest (cs : List Char) : FieldTest :=
  match cs.span (· ≠ '=') with
  | (name, []) => ⟨String.ofList name, none⟩
  | (name, _ :: value) =>
    ⟨String.ofList name, some (String.ofList (value.takeWhile (· ≠ '=')))⟩

/-- What stands in brackets: the name of a span, a field in braces, or both. -/
def bracket? (padded : Bool) (target : Option String) (cs : List Char) : Option Directive :=
  match cs.span fun c => c ≠ ']' && c ≠ '{' with
  | (name, ']' :: rest) =>
    closed? padded ⟨target, some (String.ofList name), none, fullRank⟩ rest
  | (name, '{' :: rest) =>
    match rest.span (· ≠ '}') with
    | (field, '}' :: ']' :: rest) =>
      if field.isEmpty then none
      else
        let span := if name.isEmpty then none else some (String.ofList name)
        closed? padded ⟨target, span, some (fieldTest field), fullRank⟩ rest
    | _ => none
  | _ => none

def target? (cs : List Char) : Option String :=
  if cs.isEmpty then none else some (String.ofList cs)

/-- A level, or a target with a span, a field and a level, each of which may be left out. Blanks in
front belong to the target, which then is that of no origin. -/
def directive? (cs : List Char) : Option Directive :=
  let inner := Text.trimChars cs
  let padded := inner.length < cs.length
  let (name, rest) := inner.span fun c => c ≠ '=' && c ≠ '['
  let target := target? (cs.takeWhile Text.isBlank ++ name)
  if !name.head?.all startsName then none
  else
    match rest with
    | [] => if name.isEmpty then none else some (alone (String.ofList cs))
    | '[' :: rest => bracket? padded target rest
    | _ :: level =>
      if name.isEmpty then none
      else (level? padded level).map fun rank => ⟨target, none, none, rank⟩

def splitCommas : List Char → List (List Char)
  | [] => [[]]
  | c :: rest =>
    if c = ',' then [] :: splitCommas rest
    else
      match splitCommas rest with
      | [] => [[c]]
      | part :: parts => (c :: part) :: parts

/-- One directive that cannot be read spoils the whole text. -/
def parse? (text : String) : Option Filter :=
  ((splitCommas text.toList).filter fun part => !part.isEmpty).mapM directive?

/-- No entry is made inside a span, and the values of fields are not looked at. -/
def Directive.covers (d : Directive) (e : Entry) : Bool :=
  d.span.isNone &&
    d.target.all (fun target => target.toList.isPrefixOf e.origin.path.toList) &&
    d.field.all fun f => f.value.isNone && e.names.contains f.name

/-- The length of the target; having none counts less than having an empty one. -/
def Directive.weight (d : Directive) : Nat :=
  d.target.elim 0 fun target => target.utf8ByteSize + 1

/-- Whether a directive names entries less closely than another one: by its target, then by having a
field, then by the field's name. -/
def Directive.isBelow (d b : Directive) : Bool :=
  if Directive.weight d ≠ Directive.weight b then Directive.weight d < Directive.weight b
  else
    match d.field, b.field with
    | none, field => field.isSome
    | some _, none => false
    | some f, some g => f.name < g.name

/-- The directive that decides: the closest one, of equally close ones the last. -/
def decisive (e : Entry) (f : Filter) : Option Directive :=
  (f.filter fun d => Directive.covers d e).foldl
    (fun best d =>
      match best with
      | none => some d
      | some b => if Directive.isBelow d b then some b else some d) none

/-- An entry no directive covers is left out. -/
def allows (f : Filter) (e : Entry) : Bool :=
  match f.decisive e with
  | none => false
  | some d => e.level.rank ≤ d.rank

end Filter

/-- The filter for an environment. A text that can be read as a filter takes its place. -/
def filterFor (environment : String) (override : Option String) : Filter :=
  match override.bind Filter.parse? with
  | some f => f
  | none =>
    let level : Level := if environment == "production" then .info else .debug
    [⟨none, none, none, level.rank⟩]

end BulkActions.Journal
