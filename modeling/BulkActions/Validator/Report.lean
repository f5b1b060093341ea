import BulkActions.Settings.Load
import BulkActions.Validator.Arguments
import BulkActions.Yaml.Printer

/-! What the validator prints and whether it is content. -/

namespace BulkActions.Validator

open Settings

/-- Lines for the output and for the errors, and the exit code. -/
structure Report where
  output : List String
  errors : List String
  code : Nat
  deriving DecidableEq, Repr

/-- Every failure is reported on one line. -/
def Report.failed (output : List String) (reason : String) : Report :=
  ⟨output, [s!"❌ {reason}"], 1⟩

def Report.passed (output : List String) : Report := ⟨output, [], 0⟩

def loadFailure (environment : String) (e : Settings.Error) : String :=
  s!"failed to load configuration for '{environment}': {e.message}"

def sizeLine (name : String) (size : Nat) : String := s!"   {name}: {size}"

def summaryLines (s : Settings) : List String :=
  ["🗄️  Database",
    sizeLine "max_connections" s.database.maxConnections,
    "📦 Dataset mapping",
    sizeLine "chunk_size" s.dataset.chunkSize,
    sizeLine "progress_write_interval_chunks" s.dataset.progressInterval,
    sizeLine "max_errors_per_chunk" s.dataset.maxErrorsPerChunk,
    sizeLine "max_retained_errors" s.dataset.maxRetainedErrors,
    "🧪 Evaluation",
    sizeLine "batch_size" s.evaluation.batchSize,
    sizeLine "max_concurrency" s.evaluation.maxConcurrency,
    "📝 Summary",
    sizeLine "max_error_lines" s.summary.maxErrorLines,
    sizeLine "max_log_chars" s.summary.maxLogChars]

/-- How the address of the database stands. Only an empty one is a fault. -/
def databaseLine (s : DatabaseSettings) (value : String → Option String) : Except String String :=
  match s.url with
  | none => .ok "   ℹ️  Database URL not configured (reads DATABASE_URL)"
  | some url =>
    if url.isEmpty then .error "database.url is configured but empty"
    else if beginsPlaceholder url then
      if (s.address value).isEmpty then .ok s!"   ⚠️  {url} is not set in this environment"
      else .ok "   ✅ Database URL resolved from environment"
    else .ok "   ✅ Database URL configured"

/-- The settings of a directory for one environment. -/
def loadSettings (s : Surroundings) (directory : Option String) (environment : String) :
    Except String Settings :=
  match (loadFor s directory environment).result with
  | .error e => .error (loadFailure environment e)
  | .ok loaded => .ok loaded.settings

def headLines (o : Options) : List String :=
  ["🔧 Validating batch action configuration", s!"Environment: {o.environment}"] ++
    (o.directory.map fun dir => s!"Config Directory: {dir}").toList ++ [""]

def validate (s : Surroundings) (o : Options) : Report :=
  match loadSettings s o.directory o.environment with
  | .error reason => .failed (headLines o) reason
  | .ok settings =>
    let lines := headLines o ++ summaryLines settings
    match databaseLine settings.database s.value with
    | .error reason => .failed lines reason
    | .ok line =>
      .passed (lines ++ [line, "", s!"🎉 Configuration for '{o.environment}' is valid"])

/-- The outcome for one environment among all of them. -/
structure Checked where
  environment : String
  failure : Option String

def Checked.line (c : Checked) : String :=
  match c.failure with
  | none => s!"✅ {c.environment}"
  | some reason => s!"❌ {c.environment}: {reason}"

def checkOne (s : Surroundings) (directory : Option String) (environment : String) : Checked :=
  match loadSettings s directory environment with
  | .error reason => ⟨environment, some reason⟩
  | .ok _ => ⟨environment, none⟩

/-- Every environment that may have a section of its own. -/
def validateAll (s : Surroundings) (o : Options) : Report :=
  let checked := sectionNames.map (checkOne s o.directory)
  let failing := (checked.filter fun c => c.failure.isSome).map (·.environment)
  let lines := checked.map (·.line)
  if failing.isEmpty then .passed lines
  else
    let names := ", ".intercalate failing
    .failed lines s!"invalid configuration for: {names}"

def showSettings (s : Surroundings) (o : Options) : Report :=
  match loadSettings s o.directory o.environment with
  | .error reason => .failed [] reason
  | .ok settings =>
    match o.format with
    | "json" => .passed [settings.masked.pretty]
    | "yaml" => .passed [Yaml.render settings.masked]
    | _ => .passed (summaryLines settings)

/-- An address starts with a scheme: a letter, then letters, digits and a few marks up to a colon.
Blanks in front do not count. -/
def hasScheme (address : String) : Bool :=
  match address.toList.dropWhile fun c => c.toNat ≤ 32 with
  | [] => false
  | c :: rest =>
    c.isAlpha &&
      (rest.dropWhile fun c => c.isAlphanum || ['+', '-', '.'].contains c).head? == some ':'

/-- What is left to do for a request: nothing but a report, or a connection to a database. -/
inductive Plan where
  | report (report : Report)
  | connect (address : String) (migrate : Bool)
  deriving DecidableEq, Repr

def connectFailure (reason : String) : Report :=
  .failed [] s!"failed to connect to database: {reason}"

/-- Only an address with a scheme can be connected to. -/
def ping (s : Surroundings) (o : Options) (migrate : Bool) : Plan :=
  match loadSettings s o.directory o.environment with
  | .error reason => .report (.failed [] reason)
  | .ok settings =>
    let address := settings.database.address s.value
    if hasScheme address then .connect address migrate
    else
      let reason := "relative URL without a base"
      .report (connectFailure s!"error with configuration: {reason}: {reason}")

def plan (s : Surroundings) : Request → Plan
  | .version => .report (.passed ["config-validator 0.1.0"])
  | .run o .validate => .report (validate s o)
  | .run o .all => .report (validateAll s o)
  | .run o .show => .report (showSettings s o)
  | .run o (.ping migrate) => ping s o migrate

end BulkActions.Validator
