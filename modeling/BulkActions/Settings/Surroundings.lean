import BulkActions.Settings.Basic
import BulkActions.Text.Lowercase

/-! What settings are loaded from: variables and files. -/

namespace BulkActions.Settings

inductive FileEntry where
  | directory
  | file (content : ByteArray)

structure Surroundings where
  /-- The value of a variable. -/
  value : String → Option String
  entry : String → Option FileEntry

/-- The name of an entry in a directory. -/
def joinPath (directory name : String) : String :=
  if directory.isEmpty || directory.toList.getLast? == some '/' then directory ++ name
  else directory ++ "/" ++ name

namespace Surroundings

def exists? (s : Surroundings) (path : String) : Bool := (s.entry path).isSome

/-- The environment in force, in lower case. -/
def environment (s : Surroundings) : String :=
  Text.lowercase
    (((s.value "BATCH_ACTION_ENV").or (s.value "APP_ENV")).getD "development")

/-- The directory that is meant where none is named. -/
def directory (s : Surroundings) : String :=
  match s.value "BATCH_ACTION_CONFIG_DIR" with
  | some dir => dir
  | none =>
    let beside := (s.value "CARGO_MANIFEST_DIR").map fun dir => joinPath dir "config"
    (beside.filter s.exists?).getD "config"

end Surroundings

/-- The name of the variable a text stands for, if it is a placeholder as a whole. -/
def placeholder? (text : String) : Option String :=
  match text.toList with
  | '$' :: '{' :: rest =>
    if rest.getLast? = some '}' then some (String.ofList rest.dropLast) else none
  | _ => none

end Settings

/-- The address of the database; a variable that is not set gives an empty one. -/
def DatabaseSettings.address (s : DatabaseSettings) (value : String → Option String) : String :=
  let default : DatabaseSettings := {}
  let url := s.url.getD (default.url.getD "")
  match Settings.placeholder? url with
  | some name => (value name).getD ""
  | none => url

end BulkActions
