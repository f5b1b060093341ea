import BulkActions.Journal.Entry
import BulkActions.Json.Printer
import BulkActions.Settings.Codec
import BulkActions.Settings.Mask
import BulkActions.Settings.Surroundings
import BulkActions.Settings.Validate
import BulkActions.Yaml.Merge
import BulkActions.Yaml.Document
import BulkActions.Yaml.Source

/-! Loading settings for an environment: the file is found and read, the section of the environment
is merged over the rest, and the result is checked. -/

namespace BulkActions.Settings

/-- Settings with what they were loaded for and from. -/
structure Loaded where
  settings : Settings
  environment : String
  directory : String
  deriving DecidableEq, Repr

/-- The result of loading, with the journal entries made on the way. -/
structure Loading where
  entries : List Journal.Entry
  result : Except Error Loaded

/-- The settings as a document fit to be shown. -/
def masked (s : Settings) : Json := mask s.toJson

def fileNames : List String := ["batch-actions.yaml", "batch-actions.yml"]

/-- The sections that only hold settings for one environment. -/
def sectionNames : List String := ["development", "test", "production"]

def sizeLimit : Nat := 1048576

def note (level : Journal.Level) (message : String)
    (fields : List (String × Journal.FieldValue)) : Journal.Entry :=
  ⟨level, .settings, message, fields⟩

/-- The first of the file names that exists in a directory. -/
def locate (s : Surroundings) (directory : String) : Except Error String :=
  let paths := fileNames.map (joinPath directory)
  match paths.find? s.exists? with
  | some path => .ok path
  | none => .error (.fileNotFound paths)

/-- The text of a file that is not too large. -/
def readText (s : Surroundings) (path : String) : Except Error String :=
  match s.entry path with
  | some (.file content) =>
    if sizeLimit < content.size then
      .error (.invalidValue "file_size" s!"{content.size}"
        s!"Configuration file exceeds {sizeLimit} bytes")
    else
      match String.fromUTF8? content with
      | some text => .ok text
      | none => .error (.unreadable path "stream did not contain valid UTF-8")
  | some .directory =>
    .error (.invalidValue "file_type" "directory or special file"
      "Configuration path must point to a regular file")
  | none => .error (.unreadable path "No such file or directory (os error 2)")

def readDocument (s : Surroundings) (path : String) : Except Error Yaml :=
  match readText s path with
  | .error e => .error e
  | .ok text => (Yaml.parse text).mapError fun e => .invalidYaml path e.message

/-- What a document says about one environment. -/
inductive Section where
  | absent
  | present (overrides : Yaml)
  | malformed
  deriving DecidableEq

def sectionOf (environment : String) (document : Yaml) : Section :=
  match document.get? (.text environment) with
  | none | some (.scalar .null) => .absent
  | some (.mapping entries) => .present (.mapping entries)
  | some _ => .malformed

/-- The document in force for an environment, without the sections. There is none where the section
of the environment is no mapping. -/
def effective? (environment : String) (document : Yaml) : Option Yaml :=
  match sectionOf environment document with
  | .absent => some (document.eraseAll sectionNames)
  | .present overrides => some ((document.merge overrides).eraseAll sectionNames)
  | .malformed => none

/-- The settings a document holds for an environment. -/
def ofDocument (environment file : String) (document : Yaml) : Except Error Settings :=
  match effective? environment document with
  | none => .error (.merge s!"'{environment}' section in {file} must be a mapping")
  | some document =>
    match Settings.decoder document with
    | .error e => .error (.invalidYaml file s!"Failed to deserialize configuration: {e.message}")
    | .ok settings => .ok { settings with environment := environment }

def startEntry (environment directory : String) : Journal.Entry :=
  note .debug
    s!"Loading configuration for environment '{environment}' from directory: {directory}" []

def foundEntry (path : String) : Journal.Entry :=
  note .debug s!"Found configuration file: {path}" []

/-- An entry where a section was merged. -/
def mergeEntries (environment : String) (document : Yaml) : List Journal.Entry :=
  match sectionOf environment document with
  | .present _ =>
    [note .debug s!"Applying environment-specific overrides for: {environment}" []]
  | _ => []

def loadedEntries (s : Settings) : List Journal.Entry :=
  [note .debug s!"Configuration loaded successfully: {s.masked.pretty}" [],
    note .info "⚙️ CONFIG: Configuration loaded"
      [("environment", .quoted s.environment), ("chunk_size", .number s.dataset.chunkSize),
        ("evaluation_batch_size", .number s.evaluation.batchSize),
        ("evaluation_concurrency", .number s.evaluation.maxConcurrency)]]

/-- The checked settings of a document that was read. -/
def check (environment directory path : String) (document : Yaml) : Loading :=
  let merged := mergeEntries environment document
  match ofDocument environment path document with
  | .error e => ⟨merged, .error e⟩
  | .ok settings =>
    match settings.validate with
    | .error e => ⟨merged, .error e⟩
    | .ok settings => ⟨merged ++ loadedEntries settings, .ok ⟨settings, environment, directory⟩⟩

/-- Loads the settings of a directory, or of the default one, for a named environment. -/
def loadFor (s : Surroundings) (directory : Option String) (environment : String) : Loading :=
  let directory := directory.getD s.directory
  let start := startEntry environment directory
  match locate s directory with
  | .error e => ⟨[start], .error e⟩
  | .ok path =>
    match readDocument s path with
    | .error e => ⟨[start, foundEntry path], .error e⟩
    | .ok document =>
      let checked := check environment directory path document
      ⟨start :: foundEntry path :: checked.entries, checked.result⟩

/-- Loads the settings for the environment in force. -/
def load (s : Surroundings) (directory : Option String) : Loading :=
  loadFor s directory s.environment

/-- Settings that were built elsewhere, once they are checked. -/
def Loaded.ofSettings (settings : Settings) : Except Error Loaded :=
  settings.validate.map fun settings => ⟨settings, settings.environment, "config"⟩

end BulkActions.Settings
