import BulkActions.Proofs.Settings.Environment
import BulkActions.Settings.Shared

/-! Shared settings along the requests of a process. The first request that has settings to give
stores them. From then on they stay, whatever becomes of the variables and the files. -/

namespace BulkActions.Settings

/-- The settings pass the check as they are. -/
def Loaded.Valid (l : Loaded) : Prop := l.settings.validate = .ok l.settings

theorem eq_of_validate {s t : Settings} (checked : s.validate = .ok t) : t = s := by
  unfold validate at checked
  split at checked
  · cases checked
  · cases checked
    rfl

/-- What is loaded was checked, under the name it bears. -/
theorem valid_of_load {s : Surroundings} {directory : Option String} {l : Loaded}
    (loaded : (load s directory).result.toOption = some l) : l.Valid := by
  have read : (loadFor s directory s.environment).settings? = some l.settings :=
    congrArg (Option.map Loaded.settings) loaded
  rw [settings?_loadFor] at read
  obtain ⟨document, -, own⟩ := Option.bind_eq_some_iff.mp read
  obtain ⟨v, -, decoded⟩ := Option.bind_eq_some_iff.mp own
  obtain ⟨settings, -, passed⟩ := Option.bind_eq_some_iff.mp decoded
  cases checked : (renamed settings s.environment).validate with
  | error e => simp [checked, Except.toOption] at passed
  | ok valid =>
    have same : valid = l.settings := by simpa [checked, Except.toOption] using passed
    have unchanged := eq_of_validate checked
    rw [Loaded.Valid, ← same]
    exact unchanged ▸ checked

/-- The defaults pass every check, for any environment. -/
theorem valid_fallback (s : Surroundings) : (fallback s).Valid := rfl

namespace Shared

/-- What a process asks for, in the surroundings it finds at that moment. -/
inductive Request where
  | get (s : Surroundings)
  | load (s : Surroundings) (directory : Option String)

/-- What a request has to give: the settings it can load. Where they are to be obtained in any case
and cannot be loaded, these are the defaults. -/
def Request.offer : Request → Option Loaded
  | .get s => some ((Settings.load s none).result.toOption.getD (fallback s))
  | .load s directory => (Settings.load s directory).result.toOption

def after (shared : Shared) : Request → Shared
  | .get s => (shared.obtain s).1
  | .load s directory => (shared.load s directory).1

def answer (shared : Shared) : Request → Except Error Loaded
  | .get s => .ok (shared.obtain s).2.2
  | .load s directory => (shared.load s directory).2.result

def afterAll (shared : Shared) (requests : List Request) : Shared := requests.foldl after shared

/-- A request stores what it has to give where nothing is stored. -/
theorem after_eq (shared : Shared) (r : Request) : after shared r = Option.or shared r.offer := by
  cases r with
  | get s =>
    cases shared with
    | some stored => rfl
    | none =>
      cases loaded : (Settings.load s none).result with
      | error e => simp [after, Shared.obtain, Request.offer, loaded, Except.toOption]
      | ok l => simp [after, Shared.obtain, Request.offer, loaded, Except.toOption]
  | load s directory =>
    cases loaded : (Settings.load s directory).result with
    | error e => simp [after, Shared.load, Request.offer, loaded, Except.toOption]
    | ok l => simp [after, Shared.load, Request.offer, loaded, Except.toOption]

/-- Settings that are obtained are the stored ones, and are stored from then on. -/
theorem answer_get (shared : Shared) (s : Surroundings) :
    ∃ l, answer shared (.get s) = .ok l ∧ after shared (.get s) = some l := by
  cases shared with
  | some stored => exact ⟨stored, rfl, rfl⟩
  | none =>
    cases loaded : (Settings.load s none).result with
    | error e => exact ⟨fallback s, by simp [answer, after, Shared.obtain, loaded]⟩
    | ok l => exact ⟨l, by simp [answer, after, Shared.obtain, loaded]⟩

/-- A request to load is answered by what is loaded, whatever is stored. -/
theorem answer_load (shared : Shared) (s : Surroundings) (directory : Option String) :
    answer shared (.load s directory) = (Settings.load s directory).result := by
  cases loaded : (Settings.load s directory).result with
  | error e => simp [answer, Shared.load, loaded]
  | ok l => simp [answer, Shared.load, loaded]

theorem valid_of_offer {r : Request} {l : Loaded} (offered : r.offer = some l) : l.Valid := by
  cases r with
  | get s =>
    obtain rfl := Option.some.inj offered
    cases loaded : (Settings.load s none).result.toOption with
    | none => exact valid_fallback s
    | some m => exact valid_of_load loaded
  | load s directory => exact valid_of_load offered

/-- What is stored after the requests was stored before, or the first of them that had settings to
give stored it. -/
theorem afterAll_eq (shared : Shared) (requests : List Request) :
    afterAll shared requests = Option.or shared (requests.findSome? Request.offer) := by
  induction requests generalizing shared with
  | nil => cases shared <;> rfl
  | cons r rest ih =>
    have step : afterAll shared (r :: rest) = afterAll (after shared r) rest := rfl
    rw [step, ih, after_eq, Option.or_assoc, List.findSome?_cons]
    cases r.offer <;> rfl

theorem afterAll_append_singleton (shared : Shared) (requests : List Request) (r : Request) :
    afterAll shared (requests ++ [r]) = after (afterAll shared requests) r :=
  List.foldl_append ..

/-- Nothing but valid settings is ever stored, or given as an answer. -/
theorem valid_of_afterAll {requests : List Request} {l : Loaded}
    (stored : afterAll none requests = some l) : l.Valid := by
  rw [afterAll_eq, Option.none_or] at stored
  obtain ⟨r, -, offered⟩ := List.exists_of_findSome?_eq_some stored
  exact valid_of_offer offered

theorem valid_of_answer {requests : List Request} {r : Request} {l : Loaded}
    (answered : answer (afterAll none requests) r = .ok l) : l.Valid := by
  cases r with
  | get s =>
    obtain ⟨m, given, stored⟩ := answer_get (afterAll none requests) s
    cases given.symm.trans answered
    exact valid_of_afterAll ((afterAll_append_singleton none requests (.get s)).trans stored)
  | load s directory =>
    rw [answer_load] at answered
    exact valid_of_load (congrArg Except.toOption answered)

/-- A process starts with nothing stored. After its requests the settings of the first one that had
any to give are stored, and with these every request to obtain settings was answered, wherever it
stood. A request to load that failed left what was stored, or that nothing was. Whatever settings
were given as an answer are valid. -/
theorem first_settings_are_shared (requests : List Request) :
    afterAll none requests = requests.findSome? Request.offer ∧
    (∀ before s, before ++ [.get s] <+: requests →
      ∃ l, answer (afterAll none before) (.get s) = .ok l ∧
        requests.findSome? Request.offer = some l) ∧
    (∀ before s directory e, before ++ [.load s directory] <+: requests →
      answer (afterAll none before) (.load s directory) = .error e →
      afterAll none (before ++ [.load s directory]) = afterAll none before) ∧
    ∀ before r l, before ++ [r] <+: requests →
      answer (afterAll none before) r = .ok l → l.Valid := by
  refine ⟨by rw [afterAll_eq, Option.none_or], ?_, ?_, ?_⟩
  · rintro before s ⟨later, rfl⟩
    obtain ⟨l, answered, stored⟩ := answer_get (afterAll none before) s
    rw [← afterAll_append_singleton, afterAll_eq, Option.none_or] at stored
    exact ⟨l, answered, by rw [List.findSome?_append, stored, Option.some_or]⟩
  · intro before s directory e _ failed
    rw [answer_load] at failed
    rw [afterAll_append_singleton, after_eq, Request.offer, failed]
    exact Option.or_none
  · intro before r l _ answered
    exact valid_of_answer answered

/-- A file that turns up after the defaults were stored can be loaded, but is not shared. -/
example :
    let nowhere : Surroundings := ⟨fun _ => none, fun _ => none⟩
    let later := diskWith productionText
    (answer (afterAll none [.load nowhere none, .get nowhere]) (.load later none)).isOk = true ∧
    afterAll none [.load nowhere none, .get nowhere, .load later none, .get later] =
      some (fallback nowhere) := by
  decide +kernel

end Shared

end BulkActions.Settings
