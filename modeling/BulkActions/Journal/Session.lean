import BulkActions.Journal.Filter
import BulkActions.Settings.Surroundings

/-! The journal of a process. Entries made before it is opened are lost, and it is opened once. -/

namespace BulkActions.Journal

open Settings

/-- An open journal: what it takes, what it has taken, and whether it also writes a file. -/
structure Session where
  environment : String
  filter : Filter
  toFile : Bool
  taken : List Entry
  deriving DecidableEq, Repr

/-- The name of the file of a process that was started at a time. -/
def fileName (environment processId time : String) : String :=
  s!"{environment}.{processId}.{time}.log"

def openedEntry (environment : String) : Entry where
  level := .info
  origin := .journal
  message := "🔧 STRUCTURED LOGGING: Initialized with file output"
  fields := [("pid", .processId), ("environment", .shown environment), ("log_file", .file)]

def consoleOnlyEntry : Entry where
  level := .warn
  origin := .journal
  message := "Failed to create log directory, file logging disabled"
  fields := [("error", .shown "File exists (os error 17)")]

/-- A file in the place of the directory for journals. -/
def isBlocked (s : Surroundings) : Bool :=
  match s.entry "log" with
  | some (.file _) => true
  | _ => false

namespace Session

def note (j : Session) (entries : List Entry) : Session :=
  { j with taken := j.taken ++ entries.filter j.filter.allows }

def start (s : Surroundings) : Session :=
  let environment := s.environment
  let toFile := !isBlocked s
  let j : Session := ⟨environment, filterFor environment (s.value "RUST_LOG"), toFile, []⟩
  j.note [if toFile then openedEntry environment else consoleOnlyEntry]

end Session

/-- Opens the journal unless it is open. -/
def openSession (journal : Option Session) (s : Surroundings) : Option Session :=
  journal.or (some (.start s))

/-- Hands entries to the journal, if there is one. -/
def noteAll (journal : Option Session) (entries : List Entry) : Option Session :=
  journal.map fun j => j.note entries

end BulkActions.Journal
