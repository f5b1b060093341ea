import BulkActions.Proofs.Settings.Environment
import BulkActions.Validator.Report

/-! When the validator is content. A single environment has to load and may not have an empty
address for its database; among all environments only loading counts. -/

namespace BulkActions.Validator

open Settings

/-- The validator ends with exit code zero. -/
def Succeeds (s : Surroundings) (request : Request) : Prop :=
  ∃ report, plan s request = .report report ∧ report.code = 0

/-- The settings of an environment can be loaded. -/
def Loads (s : Surroundings) (directory : Option String) (environment : String) : Prop :=
  ∃ settings, loadSettings s directory environment = .ok settings

/-- The settings of an environment can be loaded, and the address of the database is empty. -/
def HasEmptyAddress (s : Surroundings) (directory : Option String) (environment : String) : Prop :=
  ∃ settings, loadSettings s directory environment = .ok settings ∧ settings.database.url = some ""

/-- Validating one environment after the other succeeds each time. -/
def EachSucceeds (s : Surroundings) (directory : Option String) : Prop :=
  ∀ o : Options, o.directory = directory → o.environment ∈ sectionNames →
    Succeeds s (.run o .validate)

theorem succeeds_of_report {s : Surroundings} {request : Request} {report : Report}
    (planned : plan s request = .report report) : Succeeds s request ↔ report.code = 0 := by
  constructor
  · rintro ⟨other, also, passed⟩
    cases planned.symm.trans also
    exact passed
  · exact fun passed => ⟨report, planned, passed⟩

/-- Only an empty address is a fault. -/
theorem exists_databaseLine_iff (s : DatabaseSettings) (value : String → Option String) :
    (∃ line, databaseLine s value = .ok line) ↔ s.url ≠ some "" := by
  unfold databaseLine
  cases s.url with
  | none => simp
  | some url =>
    by_cases empty : url = ""
    · simp [empty]
    · have filled : url.isEmpty = false := by simpa using empty
      simp only [filled, Bool.false_eq_true, if_false, ne_eq, Option.some.injEq, empty,
        not_false_eq_true, iff_true]
      split
      · split
        · exact ⟨_, rfl⟩
        · exact ⟨_, rfl⟩
      · exact ⟨_, rfl⟩

theorem validate_succeeds_iff (s : Surroundings) (o : Options) :
    Succeeds s (.run o .validate) ↔
      Loads s o.directory o.environment ∧ ¬ HasEmptyAddress s o.directory o.environment := by
  have planned : plan s (.run o .validate) = .report (validate s o) := rfl
  rw [succeeds_of_report planned]
  unfold validate Loads HasEmptyAddress
  cases loadSettings s o.directory o.environment with
  | error reason => simp [Report.failed]
  | ok settings =>
    have checked := exists_databaseLine_iff settings.database s.value
    cases found : databaseLine settings.database s.value with
    | error reason => simpa [Report.failed, found] using checked
    | ok line => simpa [Report.passed, found] using checked

theorem failure_checkOne (s : Surroundings) (directory : Option String) (environment : String) :
    (checkOne s directory environment).failure = none ↔ Loads s directory environment := by
  unfold checkOne Loads
  cases loadSettings s directory environment with
  | error reason => simp
  | ok settings => simp

theorem validateAll_succeeds_iff (s : Surroundings) (o : Options) :
    Succeeds s (.run o .all) ↔ ∀ environment ∈ sectionNames, Loads s o.directory environment := by
  have planned : plan s (.run o .all) = .report (validateAll s o) := rfl
  rw [succeeds_of_report planned]
  simp only [← failure_checkOne, validateAll]
  split
  · rename_i faultless
    simpa [Report.passed, List.filter_eq_nil_iff] using faultless
  · rename_i failing
    simpa [Report.failed, List.filter_eq_nil_iff] using failing

theorem eachSucceeds_iff (s : Surroundings) (directory : Option String) :
    EachSucceeds s directory ↔
      ∀ environment ∈ sectionNames,
        Loads s directory environment ∧ ¬ HasEmptyAddress s directory environment := by
  constructor
  · intro each environment member
    exact (validate_succeeds_iff s ⟨environment, directory, "table"⟩).mp (each _ rfl member)
  · rintro sound o rfl member
    exact (validate_succeeds_iff s o).mpr (sound o.environment member)

/-- What is valid for each environment is valid for all of them. The two commands agree unless all
environments load and one of them has an empty address for its database. -/
theorem all_agrees_with_each_iff (s : Surroundings) (o : Options) :
    (EachSucceeds s o.directory → Succeeds s (.run o .all)) ∧
    ((Succeeds s (.run o .all) ↔ EachSucceeds s o.directory) ↔
      ¬ ((∀ environment ∈ sectionNames, Loads s o.directory environment) ∧
        ∃ environment ∈ sectionNames, HasEmptyAddress s o.directory environment)) := by
  rw [validateAll_succeeds_iff, eachSucceeds_iff]
  refine ⟨fun sound environment member => (sound environment member).1, ?_, ?_⟩
  · rintro agree ⟨loads, environment, member, empty⟩
    exact (agree.mp loads environment member).2 empty
  · intro filled
    constructor
    · intro loads environment member
      refine ⟨loads environment member, fun empty => ?_⟩
      exact filled ⟨loads, environment, member, empty⟩
    · exact fun sound environment member => (sound environment member).1

/-- An empty address. -/
def emptyAddressText : String := "database:\n  url: ''\n"

/-- An empty address fails each environment, and all of them together pass. -/
theorem empty_address_passes_all :
    Succeeds (diskWith emptyAddressText) (.run {} .all) ∧
    ∀ environment ∈ sectionNames,
      ¬ Succeeds (diskWith emptyAddressText) (.run ⟨environment, none, "table"⟩ .validate) := by
  constructor
  · exact ⟨_, rfl, by decide +kernel⟩
  · intro environment member
    rw [succeeds_of_report rfl]
    have failing : ∀ environment ∈ sectionNames,
        (validate (diskWith emptyAddressText) ⟨environment, none, "table"⟩).code ≠ 0 := by
      decide +kernel
    exact failing environment member

end BulkActions.Validator
