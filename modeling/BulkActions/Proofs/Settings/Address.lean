import BulkActions.Proofs.Settings.Environment
import BulkActions.Proofs.Settings.Masking
import BulkActions.Validator.Report

/-! The address of the database in the settings that are shown. What begins like a placeholder is
shown as it is, and what is not one as a whole is used as it is. -/

namespace BulkActions.Settings

/-- The same settings with another url for the database. -/
def withUrl (s : Settings) (url : String) : Settings :=
  { s with database := { s.database with url := some url } }

/-- A url that is the address of the database, whatever the variables hold. -/
structure IsLiteral (url : String) : Prop where
  filled : url ≠ ""
  verbatim (s : Settings) (value : String → Option String) :
    (s.withUrl url).database.address value = url

/-- The url of the database in a document that is shown. -/
def shownUrl (shown : Json) : Option Json := (shown.get? "database").bind (·.get? "url")

/-- These settings are what a request of the validator is about. -/
def IsLoaded (settings : Settings) (s : Surroundings) (o : Validator.Options) : Prop :=
  (Validator.loadSettings s o.directory o.environment).toOption = some settings

theorem address_withUrl (s : Settings) (url : String) (value : String → Option String) :
    (s.withUrl url).database.address value =
      match placeholder? url with
      | some name => (value name).getD ""
      | none => url := rfl

/-- A placeholder as a whole has no value where its variable is not set. -/
theorem isLiteral_iff (url : String) : IsLiteral url ↔ url ≠ "" ∧ placeholder? url = none := by
  constructor
  · intro literal
    refine ⟨literal.filled, ?_⟩
    have unset := literal.verbatim {} fun _ => none
    rw [address_withUrl] at unset
    cases found : placeholder? url with
    | none => rfl
    | some name =>
      simp only [found, Option.getD_none] at unset
      exact absurd unset.symm literal.filled
  · rintro ⟨filled, whole⟩
    refine ⟨filled, fun s value => ?_⟩
    rw [address_withUrl, whole]

theorem isSensitive_url : isSensitive "url" = true := by decide +kernel

theorem isSensitive_database : isSensitive "database" = false := by decide +kernel

/-- The url is masked on its own, next to the number of connections. -/
theorem mask_database (s : Settings) (url : String) :
    mask (s.withUrl url).database.toJson =
      .obj [("url", hide (.str url)), ("max_connections", .nat s.database.maxConnections)] := by
  have plain : isSensitive "max_connections" = false := by decide +kernel
  simp [withUrl, DatabaseSettings.toJson, mask, maskFields, isSensitive_url, plain, Json.orNull,
    Json.nat]

theorem shownUrl_masked (s : Settings) (url : String) :
    shownUrl (masked (s.withUrl url)) = some (hide (.str url)) := by
  have database : (masked (s.withUrl url)).get? "database" =
      some (mask (s.withUrl url).database.toJson) := by
    rw [masked, get?_mask, isSensitive_database]
    rfl
  rw [shownUrl, database, mask_database]
  rfl

/-- The url leaves no trace but the one in its own place. -/
theorem masked_eq_iff (s : Settings) (url other : String) :
    masked (s.withUrl url) = masked (s.withUrl other) ↔ hide (.str url) = hide (.str other) := by
  constructor
  · intro same
    have shown : shownUrl (masked (s.withUrl url)) = shownUrl (masked (s.withUrl other)) := by
      rw [same]
    rw [shownUrl_masked, shownUrl_masked] at shown
    exact Option.some.inj shown
  · intro same
    have inner : mask (s.withUrl url).database.toJson = mask (s.withUrl other).database.toJson := by
      rw [mask_database, mask_database, same]
    simp only [masked, toJson, mask, maskFields, isSensitive_database, Bool.false_eq_true, if_false,
      inner]
    rfl

theorem hide_of_begins {url : String} (filled : url ≠ "") (begins : beginsPlaceholder url) :
    hide (.str url) = .str url := by
  simp [hide, filled, begins]

/-- A text that is filled in is a secret unless it begins like a placeholder. -/
theorem isSecret_text_iff {url : String} (filled : url ≠ "") :
    IsSecret (.str url) ↔ ¬ beginsPlaceholder url := by
  simp [IsSecret, filled, beginsPlaceholder]

theorem hide_eq_masked_iff {url : String} (filled : url ≠ "") :
    hide (.str url) = .str "[MASKED]" ↔ ¬ beginsPlaceholder url := by
  rw [hide_eq_mark_iff, isSecret_text_iff filled]

theorem hide_eq_iff {url other : String} (filled : url ≠ "") (also : other ≠ "") :
    hide (.str url) = hide (.str other) ↔
      url = other ∨ ¬ beginsPlaceholder url ∧ ¬ beginsPlaceholder other := by
  rw [hide_eq_hide_iff, Json.str.injEq, isSecret_text_iff filled, isSecret_text_iff also]

/-- Settings that are the same once masked, and have the same sizes, cannot be told apart. -/
theorem showSettings_eq {x y : Settings} {a b : Surroundings} {o : Validator.Options}
    (first : IsLoaded x a o) (second : IsLoaded y b o) (same : x.masked = y.masked)
    (sizes : Validator.summaryLines x = Validator.summaryLines y) :
    Validator.showSettings a o = Validator.showSettings b o := by
  unfold IsLoaded at first second
  unfold Validator.showSettings
  cases left : Validator.loadSettings a o.directory o.environment with
  | error e => simp [left, Except.toOption] at first
  | ok u =>
    cases right : Validator.loadSettings b o.directory o.environment with
    | error e => simp [right, Except.toOption] at second
    | ok v =>
      simp only [left, right, Except.toOption, Option.some.injEq] at first second
      simp only [first, second, same, sizes]

/-- A url that is used as it stands is hidden exactly where it does not begin like a placeholder;
where it does, the address itself is shown. Settings that differ in two such urls look the same
exactly where neither begins like one, and the validator then prints the same for both. -/
theorem literal_url_hidden_iff (s : Settings) {url other : String} (literal : IsLiteral url)
    (also : IsLiteral other) :
    (shownUrl (masked (s.withUrl url)) = some (.str "[MASKED]") ↔ ¬ beginsPlaceholder url) ∧
    (beginsPlaceholder url → ∀ value : String → Option String,
      shownUrl (masked (s.withUrl url)) = some (.str ((s.withUrl url).database.address value))) ∧
    (masked (s.withUrl url) = masked (s.withUrl other) ↔
      url = other ∨ ¬ beginsPlaceholder url ∧ ¬ beginsPlaceholder other) ∧
    (¬ beginsPlaceholder url → ¬ beginsPlaceholder other →
      ∀ (a b : Surroundings) (o : Validator.Options), IsLoaded (s.withUrl url) a o →
        IsLoaded (s.withUrl other) b o →
        Validator.showSettings a o = Validator.showSettings b o) := by
  have alike : masked (s.withUrl url) = masked (s.withUrl other) ↔
      url = other ∨ ¬ beginsPlaceholder url ∧ ¬ beginsPlaceholder other := by
    rw [masked_eq_iff, hide_eq_iff literal.filled also.filled]
  rw [shownUrl_masked, Option.some.injEq]
  refine ⟨hide_eq_masked_iff literal.filled, ?_, alike, ?_⟩
  · intro begins value
    rw [literal.verbatim, hide_of_begins literal.filled begins]
  · intro left right a b o first second
    exact showSettings_eq first second (alike.mpr (.inr ⟨left, right⟩)) rfl

def localSettings : Settings := { environment := "development" }

/-- A url for the database and nothing else. -/
def urlText (url : String) : String := "database:\n  url: " ++ url ++ "\n"

/-- Of two passwords the validator shows the same. -/
theorem literal_url_hidden_passwords :
    shownUrl (masked (localSettings.withUrl "postgres://u:one@db/batch")) =
      some (.str "[MASKED]") ∧
    Validator.showSettings (diskWith (urlText "postgres://u:one@db/batch"))
        ⟨"development", none, "json"⟩ =
      Validator.showSettings (diskWith (urlText "postgres://u:two@db/batch"))
        ⟨"development", none, "json"⟩ := by
  have one : IsLiteral "postgres://u:one@db/batch" := (isLiteral_iff _).mpr (by decide +kernel)
  have two : IsLiteral "postgres://u:two@db/batch" := (isLiteral_iff _).mpr (by decide +kernel)
  obtain ⟨hidden, -, -, shows⟩ := literal_url_hidden_iff localSettings one two
  refine ⟨hidden.mpr (by decide +kernel), ?_⟩
  apply shows
  · decide +kernel
  · decide +kernel
  · unfold IsLoaded
    decide +kernel
  · unfold IsLoaded
    decide +kernel

/-- A reference to a variable in front of a password. It is used and shown as it stands. -/
theorem leading_reference_shows_password :
    IsLiteral "$\x7bDB_USER\x7d:hunter2@db/batch" ∧
    shownUrl (masked (localSettings.withUrl "$\x7bDB_USER\x7d:hunter2@db/batch")) =
      some (.str "$\x7bDB_USER\x7d:hunter2@db/batch") ∧
    shownUrl (masked (localSettings.withUrl "$\x7bDB_USER\x7d:hunter2@db/batch")) ≠
      some (.str "[MASKED]") := by
  refine ⟨(isLiteral_iff _).mpr (by decide +kernel), ?_⟩
  rw [shownUrl_masked]
  decide +kernel

end BulkActions.Settings
