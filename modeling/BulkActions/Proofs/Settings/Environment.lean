import BulkActions.Settings.Load

/-! The name of the environment on its way to the settings. The variable is read in lower case, and
a name that is given stays as it is, so the two may find different sections. -/

namespace BulkActions.Settings

/-- The same surroundings, with this name in the variable for the environment. -/
def Surroundings.inEnvironment (s : Surroundings) (name : String) : Surroundings :=
  { s with value := fun asked => if asked = "BATCH_ACTION_ENV" then some name else s.value asked }

/-- The settings that were loaded, if loading did not fail. -/
def Loading.settings? (l : Loading) : Option Settings := l.result.toOption.map (·.settings)

/-- The document in a directory, or in the default one, if there is one that can be read. -/
def documentIn (s : Surroundings) (directory : Option String) : Option Yaml :=
  (locate s (directory.getD s.directory)).toOption.bind fun path =>
    (readDocument s path).toOption

/-- Settings under another name. -/
def renamed (s : Settings) (environment : String) : Settings := { s with environment }

/-- The valid settings of a document for one environment. -/
def settingsFor (environment : String) (document : Yaml) : Option Settings :=
  (effective? environment document).bind fun v =>
    (Settings.decoder v).toOption.bind fun s => (renamed s environment).validate.toOption

theorem environment_inEnvironment (s : Surroundings) (name : String) :
    (s.inEnvironment name).environment = Text.lowercase name := rfl

theorem directory_inEnvironment (s : Surroundings) (name : String) :
    (s.inEnvironment name).directory = s.directory := rfl

/-- The engine loads the settings for the lower case of the name in the variable. -/
theorem load_inEnvironment (s : Surroundings) (directory : Option String) (name : String) :
    load (s.inEnvironment name) directory = loadFor s directory (Text.lowercase name) := by
  rw [load, environment_inEnvironment, loadFor, loadFor, directory_inEnvironment]
  rfl

theorem settings?_check (environment directory path : String) (document : Yaml) :
    (check environment directory path document).settings? = settingsFor environment document := by
  unfold check ofDocument settingsFor
  cases effective? environment document with
  | none => rfl
  | some v =>
    cases decoded : (Settings.decoder v : Except Decode.Error Settings) with
    | error e => simp [decoded, Loading.settings?, Except.toOption]
    | ok s =>
      cases checked : ({ s with environment } : Settings).validate with
      | error e => simp [decoded, checked, renamed, Loading.settings?, Except.toOption]
      | ok valid => simp [decoded, checked, renamed, Loading.settings?, Except.toOption]

/-- What is loaded depends on the document of the directory and on the environment alone. -/
theorem settings?_loadFor (s : Surroundings) (directory : Option String) (environment : String) :
    (loadFor s directory environment).settings? =
      (documentIn s directory).bind (settingsFor environment) := by
  unfold loadFor documentIn
  cases located : locate s (directory.getD s.directory) with
  | error e => simp [located, Loading.settings?, Except.toOption]
  | ok path =>
    cases found : readDocument s path with
    | error e => simp [located, found, Loading.settings?, Except.toOption]
    | ok document =>
      have checked := settings?_check environment (directory.getD s.directory) path document
      simpa [located, found, Loading.settings?, Except.toOption] using checked

/-- No check looks at the name of the environment. -/
theorem validate_renamed (s : Settings) (environment : String) :
    (renamed s environment).validate.toOption =
      s.validate.toOption.map (renamed · environment) := by
  have same : (renamed s environment).objection = s.objection := rfl
  unfold validate
  rw [same]
  cases s.objection with
  | some e => rfl
  | none => rfl

/-- Where two environments have the same section, their settings differ in the name alone. -/
theorem settingsFor_of_sectionOf_eq {one other : String} {document : Yaml}
    (same : sectionOf one document = sectionOf other document) :
    settingsFor one document = (settingsFor other document).map (renamed · one) := by
  have inForce : effective? one document = effective? other document := by
    rw [effective?, effective?, same]
  simp only [settingsFor, inForce, validate_renamed, Option.map_bind, Option.map_map,
    Function.comp_def]
  rfl

/-- Settings bear the name they were loaded for. -/
theorem environment_of_loadFor {s : Surroundings} {directory : Option String} {name : String}
    {settings : Settings} (loaded : (loadFor s directory name).settings? = some settings) :
    settings.environment = name := by
  rw [settings?_loadFor] at loaded
  obtain ⟨document, -, own⟩ := Option.bind_eq_some_iff.mp loaded
  rw [settingsFor_of_sectionOf_eq rfl] at own
  obtain ⟨_, -, rfl⟩ := Option.map_eq_some_iff.mp own
  rfl

/-- The engine with a name in its variable loads what is loaded for the lower case of the name. It
comes to the settings of the name itself only where the name is in lower case or nothing can be
loaded for either; where the two have the same section, the settings differ in the name alone. -/
theorem engine_loads_named_settings_iff (s : Surroundings) (directory : Option String)
    (name : String) :
    load (s.inEnvironment name) directory = loadFor s directory (Text.lowercase name) ∧
    ((load (s.inEnvironment name) directory).settings? = (loadFor s directory name).settings? ↔
      Text.lowercase name = name ∨
        (load (s.inEnvironment name) directory).settings? = none ∧
        (loadFor s directory name).settings? = none) ∧
    ∀ document, documentIn s directory = some document →
      sectionOf (Text.lowercase name) document = sectionOf name document →
      (load (s.inEnvironment name) directory).settings? =
        (loadFor s directory name).settings?.map (renamed · (Text.lowercase name)) := by
  rw [load_inEnvironment]
  refine ⟨rfl, ⟨?_, ?_⟩, ?_⟩
  · intro agree
    cases loaded : (loadFor s directory name).settings? with
    | none => exact .inr ⟨agree.trans loaded, rfl⟩
    | some settings =>
      have lower := environment_of_loadFor (agree.trans loaded)
      have given := environment_of_loadFor loaded
      exact .inl (lower.symm.trans given)
  · rintro (lower | ⟨left, right⟩)
    · rw [lower]
    · rw [left, right]
  · intro document found same
    rw [settings?_loadFor, settings?_loadFor, found]
    exact settingsFor_of_sectionOf_eq same

/-- A disk with one file, in the default directory. -/
def diskWith (content : String) : Surroundings where
  value _ := none
  entry path := if path = "config/batch-actions.yaml" then some (.file content.toUTF8) else none

/-- Settings for production alone. -/
def productionText : String := "production:\n  database:\n    max_connections: 25\n"

/-- The engine takes the section for production, and under the name that is given there is none. -/
theorem capital_misses_section :
    (load ((diskWith productionText).inEnvironment "Production") none).settings?.map
      (·.database.maxConnections) = some 25 ∧
    (loadFor (diskWith productionText) none "Production").settings?.map
      (·.database.maxConnections) = some 10 ∧
    (load ((diskWith productionText).inEnvironment "Production") none).settings? ≠
      (loadFor (diskWith productionText) none "Production").settings? := by
  decide +kernel

end BulkActions.Settings
