/-! The arguments of the validator: options first, then a command with options of its own. -/

namespace BulkActions.Validator

inductive Command where
  | validate
  | all
  | show
  | ping (migrate : Bool)
  deriving DecidableEq, Repr

structure Options where
  environment : String := "development"
  directory : Option String := none
  format : String := "table"
  deriving DecidableEq, Repr

inductive Request where
  | version
  | run (options : Options) (command : Command)
  deriving DecidableEq, Repr

/-- Options that take a value. Each may be given once. -/
inductive Field where
  | environment
  | directory
  | format
  deriving DecidableEq, Repr

def longFields : List (String × Field) :=
  [("environment", .environment), ("config-dir", .directory), ("format", .format)]

def shortFields : List (Char × Field) := [('e', .environment), ('c', .directory)]

/-- What one argument is: a flag that changes nothing here, an option with its value or before it,
the wish to see the version, or a command. -/
inductive Word where
  | flag
  | option (field : Field) (value : Option String)
  | version
  | command (name : String)
  deriving DecidableEq, Repr

/-- Short options that share a dash. The value of one that takes a value is the rest. -/
def shortWord? : List Char → Option Word
  | [] => some .flag
  | 'v' :: rest => shortWord? rest
  | 'V' :: _ => some .version
  | c :: rest =>
    (shortFields.lookup c).map fun field =>
      match rest with
      | [] => .option field none
      | '=' :: value => .option field (some (String.ofList value))
      | value => .option field (some (String.ofList value))

/-- A long option, with its value behind an equals sign or to come. -/
def longWord? (cs : List Char) : Option Word :=
  match cs.span (· ≠ '=') with
  | (name, []) =>
    let name := String.ofList name
    if name == "verbose" then some .flag
    else if name == "version" then some .version
    else (longFields.lookup name).map fun field => .option field none
  | (name, _ :: value) =>
    (longFields.lookup (String.ofList name)).map fun field =>
      .option field (some (String.ofList value))

def word? (argument : String) : Option Word :=
  match argument.toList with
  | '-' :: '-' :: rest => longWord? rest
  | '-' :: c :: rest => shortWord? (c :: rest)
  | _ => some (.command argument)

/-- The options so far. -/
structure Given where
  options : Options
  fields : List Field

def Given.set (g : Given) (field : Field) (value : String) : Option Given :=
  if g.fields.contains field || (field = .directory && value.isEmpty) then none
  else
    let options := match field with
      | .environment => { g.options with environment := value }
      | .directory => { g.options with directory := some value }
      | .format => { g.options with format := value }
    some ⟨options, field :: g.fields⟩

/-- Two dashes alone end the options. Nothing may follow them. -/
def withoutEnding (arguments : List String) : List String :=
  if arguments.getLast? = some "--" then arguments.dropLast else arguments

def command? (name : String) (rest : List String) : Option Command :=
  match name, withoutEnding rest with
  | "validate", [] => some .validate
  | "all", [] => some .all
  | "show", [] => some .show
  | "ping", [] => some (.ping true)
  | "ping", ["--no-migrate"] => some (.ping false)
  | _, _ => none

/-- A value to come may not look like an option. -/
def isValue (argument : String) : Bool :=
  match argument.toList with
  | '-' :: _ :: _ => false
  | _ => true

/-- Without a command the settings are validated. Arguments of another form give nothing. -/
def Given.parse (g : Given) : List String → Option Request
  | [] | ["--"] => some (.run g.options .validate)
  | argument :: rest =>
    match word? argument with
    | none => none
    | some .flag => parse g rest
    | some .version => some .version
    | some (.command name) => (command? name rest).map fun c => .run g.options c
    | some (.option field (some value)) => (g.set field value).bind fun g => parse g rest
    | some (.option field none) =>
      match rest with
      | [] => none
      | value :: rest =>
        if isValue value then (g.set field value).bind fun g => parse g rest else none

def Request.parse (arguments : List String) : Option Request := Given.parse ⟨{}, []⟩ arguments

end BulkActions.Validator
