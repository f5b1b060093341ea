import BulkActions.Settings.Load

/-! The settings a process shares. The first ones stored stay for good. -/

namespace BulkActions.Settings

/-- Nothing until settings are stored. -/
abbrev Shared := Option Loaded

/-- The defaults, for a process that has to go on without its settings. -/
def fallback (s : Surroundings) : Loaded :=
  ⟨{ environment := s.environment }, s.environment, "config"⟩

def fallbackEntries (e : Error) : List Journal.Entry :=
  [note .warn s!"Configuration loading failed, using fallback: {e.message}" [],
    note .warn "Creating emergency fallback configuration with default settings" []]

namespace Shared

/-- Loads settings and stores them if there are none. The answer is what was loaded. -/
def load (shared : Shared) (s : Surroundings) (directory : Option String) : Shared × Loading :=
  let loading := Settings.load s directory
  match loading.result with
  | .error _ => (shared, loading)
  | .ok loaded => (shared.or (some loaded), loading)

/-- The stored settings. Where there are none they are loaded, and if that fails the defaults are
stored. -/
def obtain (shared : Shared) (s : Surroundings) : Shared × List Journal.Entry × Loaded :=
  match shared with
  | some loaded => (some loaded, [], loaded)
  | none =>
    let loading := Settings.load s none
    match loading.result with
    | .ok loaded => (some loaded, loading.entries, loaded)
    | .error e =>
      let loaded := fallback s
      (some loaded, loading.entries ++ fallbackEntries e, loaded)

end Shared

end BulkActions.Settings
