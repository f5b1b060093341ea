import BulkActions.Validator.Report

/-! The validator as a program: reads variables and files, prints the report. -/

namespace BulkActions.Validator

open Settings

/-- What stands at a path. Anything that is there and no readable file counts as a directory. -/
def readEntry (path : String) : IO (Option FileEntry) := do
  try
    return some (.file (← IO.FS.readBinFile path))
  catch
    | .noFileOrDirectory .. => return none
    | _ => return some .directory

/-- The surroundings as far as these variables and paths go. -/
def readSurroundings (names paths : List String) : IO Surroundings := do
  let values ← names.mapM fun name => return (name, ← IO.getEnv name)
  let entries ← paths.mapM fun path => return (path, ← readEntry path)
  return ⟨fun name => (values.lookup name).join, fun path => (entries.lookup path).join⟩

def knownNames : List String :=
  ["BATCH_ACTION_ENV", "APP_ENV", "BATCH_ACTION_CONFIG_DIR", "CARGO_MANIFEST_DIR", "DATABASE_URL"]

/-- The paths that decide where the settings are. -/
def searchedPaths (s : Surroundings) (o : Options) : List String :=
  let manifest := (s.value "CARGO_MANIFEST_DIR").map fun dir => joinPath dir "config"
  let directories := o.directory.toList ++ (s.value "BATCH_ACTION_CONFIG_DIR").toList ++
    manifest.toList ++ ["config"]
  directories ++ directories.flatMap fun dir => fileNames.map (joinPath dir)

/-- The variable the address of the database refers to. -/
def addressNames (s : Surroundings) (o : Options) : List String :=
  match loadSettings s o.directory o.environment with
  | .error _ => []
  | .ok settings => (settings.database.url.bind placeholder?).toList

def gather (request : Request) : IO Surroundings := do
  let known ← readSurroundings knownNames []
  match request with
  | .version => return known
  | .run o _ =>
    let paths := searchedPaths known o
    let s ← readSurroundings knownNames paths
    readSurroundings (knownNames ++ addressNames s o) paths

def print (r : Report) : IO UInt32 := do
  r.output.forM IO.println
  r.errors.forM IO.eprintln
  return r.code.toUInt32

end BulkActions.Validator

open BulkActions.Validator in
def main (arguments : List String) : IO UInt32 := do
  match Request.parse arguments with
  | none =>
    IO.eprintln <|
      "usage: config-validator [-e ENVIRONMENT] [-c DIRECTORY] [--format FORMAT] [COMMAND]"
    return 2
  | some request =>
    match plan (← gather request) request with
    | .report r => print r
    | .connect _ _ => print (connectFailure "no database driver is available")
