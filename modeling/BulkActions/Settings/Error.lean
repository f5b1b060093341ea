import BulkActions.Text.Quoted

/-! Why settings cannot be used. -/

namespace BulkActions.Settings

inductive Error where
  | fileNotFound (searched : List String)
  | invalidYaml (file error : String)
  | missingField (field context : String)
  | invalidValue (field value context : String)
  | merge (error : String)
  | unreadable (file error : String)
  deriving DecidableEq, Repr

/-- Paths in quotes, in brackets. -/
def listPaths (paths : List String) : String :=
  "[" ++ ", ".intercalate (paths.map Text.quote) ++ "]"

def Error.message : Error → String
  | .fileNotFound searched =>
    s!"Configuration file not found. Searched paths: {listPaths searched}"
  | .invalidYaml file error => s!"Invalid YAML in configuration file '{file}': {error}"
  | .missingField field context =>
    s!"Missing required configuration field '{field}' in {context}"
  | .invalidValue field value context => s!"Invalid value '{value}' for field '{field}': {context}"
  | .merge error => s!"Failed to merge environment-specific configuration: {error}"
  | .unreadable file error => s!"Failed to read configuration file '{file}': {error}"

end BulkActions.Settings
