import BulkActions.Yaml.Basic

/-! Merging one document over another. Mappings are merged key by key at every depth; anything else
above replaces what is below. -/

namespace BulkActions.Yaml

mutual

/-- The right side lies above the left one. -/
def merge : Yaml → Yaml → Yaml
  | .mapping below, .mapping above => .mapping (mergeEntries below above)
  | _, above => above

/-- Keys keep their places; new ones follow in their own order. -/
def mergeEntries (below : List (Yaml × Yaml)) : List (Yaml × Yaml) → List (Yaml × Yaml)
  | [] => below
  | (key, value) :: rest =>
    match Entries.find? below key with
    | some old => mergeEntries (Entries.insert below key (merge old value)) rest
    | none => mergeEntries (Entries.insert below key value) rest

end

end BulkActions.Yaml
