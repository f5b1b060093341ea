import BulkActions.Proofs.Yaml.Distinct

/-! What a merged document holds at a path of keys. The document above decides wherever it holds
anything but a mapping, mappings on both sides become one, and what only one side holds stays as it
is. -/

namespace BulkActions.Yaml

/-- The value at a path of keys, nothing where a mapping or a key is missing on the way. -/
def at? : Yaml → List Yaml → Option Yaml
  | v, [] => some v
  | .mapping entries, key :: rest => (Entries.find? entries key).bind fun v => v.at? rest
  | _, _ :: _ => none

/-- The value above, merged over what is below it, if anything is. -/
def overlaid (below : Option Yaml) (above : Yaml) : Yaml :=
  match below with
  | some v => v.merge above
  | none => above

theorem mapping_or_not (v : Yaml) :
    (∃ entries, v = .mapping entries) ∨ ∀ entries, v ≠ .mapping entries := by
  cases v with
  | mapping entries => exact .inl ⟨entries, rfl⟩
  | _ => exact .inr fun _ => nofun

theorem at?_append (v : Yaml) (path more : List Yaml) :
    v.at? (path ++ more) = (v.at? path).bind fun inner => inner.at? more := by
  induction path generalizing v with
  | nil => rfl
  | cons key rest ih =>
    cases v with
    | mapping entries =>
      simp only [List.cons_append, at?]
      cases Entries.find? entries key with
      | none => rfl
      | some inner => exact ih inner
    | _ => rfl

theorem distinctKeys_at? {v inner : Yaml} (distinct : v.distinctKeys = true) {path : List Yaml}
    (found : v.at? path = some inner) : inner.distinctKeys = true := by
  induction path generalizing v with
  | nil => rwa [← Option.some.inj found]
  | cons key rest ih =>
    cases v with
    | mapping entries =>
      obtain ⟨w, own, inside⟩ := Option.bind_eq_some_iff.mp found
      exact ih (Entries.distinctKeys_of_find? distinct own) inside
    | _ => cases found

theorem merge_of_below {below : Yaml} (other : ∀ entries, below ≠ .mapping entries) (above : Yaml) :
    below.merge above = above := by
  cases below with
  | mapping entries => exact absurd rfl (other entries)
  | _ => rw [merge]; simp

theorem null_merge (above : Yaml) : null.merge above = above :=
  merge_of_below (by simp [null]) above

theorem merge_of_above {above : Yaml} (other : ∀ entries, above ≠ .mapping entries) (below : Yaml) :
    below.merge above = above := by
  cases above with
  | mapping entries => exact absurd rfl (other entries)
  | _ => cases below <;> rw [merge] <;> simp

theorem overlaid_of_not_mapping {above : Yaml} (other : ∀ entries, above ≠ .mapping entries)
    (below : Option Yaml) : overlaid below above = above := by
  cases below with
  | none => rfl
  | some v => exact merge_of_above other v

theorem overlaid_of_below {below : Option Yaml} (other : ∀ entries, below ≠ some (.mapping entries))
    (above : Yaml) : overlaid below above = above := by
  cases below with
  | none => rfl
  | some v => exact merge_of_below (fun entries same => other entries (congrArg some same)) above

namespace Entries

variable {above : Entries}

theorem mergeEntries_cons (below : Entries) (key value : Yaml) (rest : Entries) :
    mergeEntries below ((key, value) :: rest) =
      mergeEntries (insert below key (overlaid (find? below key) value)) rest := by
  rw [mergeEntries]
  cases find? below key <;> rfl

/-- A key of the entries above holds the value there, merged over the one below. -/
theorem find?_mergeEntries (distinct : distinctEntries above = true) (below : Entries) (key : Yaml) :
    find? (mergeEntries below above) key =
      match find? above key with
      | some value => some (overlaid (find? below key) value)
      | none => find? below key := by
  induction above generalizing below with
  | nil => rfl
  | cons entry rest ih =>
    obtain ⟨name, value⟩ := entry
    obtain ⟨fresh, _, later⟩ := (distinctEntries_cons_iff _ _).mp distinct
    rw [mergeEntries_cons, ih later, find?_insert, find?_cons]
    by_cases own : name.keyIdentity = key.keyIdentity
    · have absent : find? rest key = none := by rw [← find?_congr own, fresh]
      rw [absent, if_pos own, if_pos own, find?_congr own below]
    · rw [if_neg own, if_neg own]

/-- Keys keep their places, and those that are only above follow in their own order. -/
theorem keys_mergeEntries (distinct : distinctEntries above = true) (below : Entries) :
    keys (mergeEntries below above) =
      keys below ++ (keys above).filter fun key => (find? below key).isNone := by
  induction above generalizing below with
  | nil => exact (List.append_nil _).symm
  | cons entry rest ih =>
    obtain ⟨name, value⟩ := entry
    obtain ⟨fresh, _, later⟩ := (distinctEntries_cons_iff _ _).mp distinct
    have apart : ∀ key ∈ keys rest,
        (find? (insert below name (overlaid (find? below name) value)) key).isNone =
          (find? below key).isNone := by
      intro key member
      rw [find?_insert, if_neg]
      intro same
      have present := (find?_isSome_iff rest name).mpr ⟨key, member, same.symm⟩
      rw [fresh] at present
      cases present
    rw [mergeEntries_cons, ih later, keys_insert, List.filter_congr apart]
    cases known : find? below name <;> simp [keys, known]

/-- Entries that are all there already, each above its own value, change nothing. -/
theorem mergeEntries_of_absorbed {below : Entries}
    (absorbed : ∀ entry ∈ above, ∃ value, find? below entry.1 = some value ∧
      value.merge entry.2 = value) : mergeEntries below above = below := by
  induction above with
  | nil => rfl
  | cons entry rest ih =>
    obtain ⟨key, value⟩ := entry
    obtain ⟨⟨old, found, same⟩, later⟩ := List.forall_mem_cons.mp absorbed
    have own : insert below key (overlaid (find? below key) value) = below := by
      rw [found, overlaid, same, insert_of_find? found]
    rw [mergeEntries_cons, own, ih later]

end Entries

/-- What holds of everything that is no mapping, and of a mapping if it holds of its values, holds of
every document. -/
theorem induction_on_values {motive : Yaml → Prop}
    (other : ∀ v, (∀ entries, v ≠ .mapping entries) → motive v)
    (mapping : ∀ entries, (∀ entry ∈ entries, motive entry.2) → motive (.mapping entries)) :
    ∀ v, motive v
  | .mapping entries => mapping entries fun entry member =>
    have smaller := List.sizeOf_lt_of_mem member
    have : sizeOf entry.2 < sizeOf entries := by
      obtain ⟨key, v⟩ := entry
      rw [Prod.mk.sizeOf_spec] at smaller
      exact Nat.lt_of_le_of_lt (Nat.le_add_left _ _) smaller
    induction_on_values other mapping entry.2
  | .scalar s => other (.scalar s) fun _ => nofun
  | .sequence items => other (.sequence items) fun _ => nofun
  | .tagged tag v => other (.tagged tag v) fun _ => nofun
termination_by v => v

/-- A document merged a second time changes nothing. -/
theorem merge_merge {above : Yaml} (distinct : above.distinctKeys = true) (below : Yaml) :
    (below.merge above).merge above = below.merge above := by
  induction above using induction_on_values generalizing below with
  | other above other => rw [merge_of_above other, merge_of_above other]
  | mapping entries ih =>
    -- Over nothing the values above are merged as over a null.
    have absorbed (entry : Yaml × Yaml) (member : entry ∈ entries) (old : Option Yaml) :
        (overlaid old entry.2).merge entry.2 = overlaid old entry.2 := by
      have own := Entries.distinctKeys_of_find? distinct (Entries.find?_of_mem distinct member)
      cases old with
      | some v => exact ih entry member own v
      | none =>
        have alone := ih entry member own null
        rwa [null_merge] at alone
    rcases mapping_or_not below with ⟨low, rfl⟩ | other
    · rw [merge, merge, Entries.mergeEntries_of_absorbed]
      intro entry member
      refine ⟨_, ?_, absorbed entry member (Entries.find? low entry.1)⟩
      rw [Entries.find?_mergeEntries distinct, Entries.find?_of_mem distinct member]
    · rw [merge_of_below other, merge, Entries.mergeEntries_of_absorbed]
      intro entry member
      exact ⟨entry.2, Entries.find?_of_mem distinct member, absorbed entry member none⟩

theorem distinctEntries_mergeEntries {above : Entries}
    (merged : ∀ entry ∈ above, ∀ old : Option Yaml, (∀ v ∈ old, v.distinctKeys = true) →
      (overlaid old entry.2).distinctKeys = true)
    {below : Entries} (sound : distinctEntries below = true) :
    distinctEntries (mergeEntries below above) = true := by
  induction above generalizing below with
  | nil => exact sound
  | cons entry rest ih =>
    obtain ⟨first, later⟩ := List.forall_mem_cons.mp merged
    rw [Entries.mergeEntries_cons]
    refine ih later (Entries.distinctEntries_insert sound (first _ fun v found => ?_) entry.1)
    exact Entries.distinctKeys_of_find? sound found

/-- Merging keeps keys distinct. -/
theorem distinctKeys_merge {above : Yaml} (distinct : above.distinctKeys = true) {below : Yaml}
    (sound : below.distinctKeys = true) : (below.merge above).distinctKeys = true := by
  induction above using induction_on_values generalizing below with
  | other above other => rwa [merge_of_above other]
  | mapping entries ih =>
    rcases mapping_or_not below with ⟨low, rfl⟩ | other
    · rw [merge]
      refine distinctEntries_mergeEntries (fun entry member old known => ?_) sound
      have own := Entries.distinctKeys_of_find? distinct (Entries.find?_of_mem distinct member)
      cases old with
      | none => exact own
      | some v => exact ih entry member own (known v rfl)
    · rwa [merge_of_below other]

/-- Where the document above holds a value, the merged one holds it over what is below. -/
theorem at?_merge {above : Yaml} (distinct : above.distinctKeys = true) (below : Yaml)
    {path : List Yaml} {v : Yaml} (found : above.at? path = some v) :
    (below.merge above).at? path = some (overlaid (below.at? path) v) := by
  induction path generalizing below above with
  | nil => rw [← Option.some.inj found]; rfl
  | cons key rest ih =>
    cases above with
    | mapping entries =>
      obtain ⟨w, own, inside⟩ := Option.bind_eq_some_iff.mp found
      rcases mapping_or_not below with ⟨low, rfl⟩ | other
      · simp only [merge, at?, Entries.find?_mergeEntries distinct, own, Option.bind_some]
        cases Entries.find? low key with
        | none => exact inside
        | some old => exact ih (Entries.distinctKeys_of_find? distinct own) old inside
      · have nothing : below.at? (key :: rest) = none := by
          cases below with
          | mapping low => exact absurd rfl (other low)
          | _ => rfl
        rw [merge_of_below other, nothing]
        exact found
    | _ => cases found

/-- Where both documents hold a mapping, a key that is not above holds what is below. -/
theorem at?_merge_of_absent {below above : Yaml} (distinct : above.distinctKeys = true)
    {path : List Yaml} {low high : Entries} {key : Yaml}
    (under : below.at? path = some (.mapping low)) (top : above.at? path = some (.mapping high))
    (absent : above.at? (path ++ [key]) = none) :
    (below.merge above).at? (path ++ [key]) = below.at? (path ++ [key]) := by
  have inner : distinctEntries high = true := distinctKeys_at? distinct top
  have missing : Entries.find? high key = none := by
    rw [at?_append, top] at absent
    simpa [at?] using absent
  rw [at?_append, at?_append, at?_merge distinct below top, under]
  simp only [Option.bind_some, overlaid, merge, at?, Entries.find?_mergeEntries inner, missing]

/-- A merged document at every path of keys. It holds what the document above holds there, if that is
no mapping; of two mappings, one with the keys of both, those below first; a mapping above nothing, or
above no mapping, as it is; and in a mapping of both what is below, for each key that is not above.
Merged a second time it stays the same, and its keys stay distinct. -/
theorem merge_is_deep {above : Yaml} (distinct : above.distinctKeys = true) (below : Yaml) :
    (∀ path v, above.at? path = some v → (∀ entries, v ≠ .mapping entries) →
      (below.merge above).at? path = some v) ∧
    (∀ path low high, below.at? path = some (.mapping low) → above.at? path = some (.mapping high) →
      ∃ both, (below.merge above).at? path = some (.mapping both) ∧
        Entries.keys both = Entries.keys low ++
          (Entries.keys high).filter (fun key => (Entries.find? low key).isNone) ∧
        ∀ key, (Entries.find? both key).isSome = true ↔
          (Entries.find? low key).isSome = true ∨ (Entries.find? high key).isSome = true) ∧
    (∀ path high, above.at? path = some (.mapping high) →
      (∀ low, below.at? path ≠ some (.mapping low)) →
      (below.merge above).at? path = some (.mapping high)) ∧
    (∀ path key low high, below.at? path = some (.mapping low) →
      above.at? path = some (.mapping high) → above.at? (path ++ [key]) = none →
      (below.merge above).at? (path ++ [key]) = below.at? (path ++ [key])) ∧
    (below.merge above).merge above = below.merge above ∧
    (below.distinctKeys = true → (below.merge above).distinctKeys = true) := by
  refine ⟨fun path v top other => ?_, fun path low high under top => ?_,
    fun path high top other => ?_, fun path key low high under top absent =>
      at?_merge_of_absent distinct under top absent,
    merge_merge distinct below, distinctKeys_merge distinct⟩
  · rw [at?_merge distinct below top, overlaid_of_not_mapping other]
  · have inner : distinctEntries high = true := distinctKeys_at? distinct top
    refine ⟨mergeEntries low high, ?_, Entries.keys_mergeEntries inner low, fun key => ?_⟩
    · rw [at?_merge distinct below top, under, overlaid, merge]
    · rw [Entries.find?_mergeEntries inner]
      cases Entries.find? high key <;> simp
  · rw [at?_merge distinct below top, overlaid_of_below other]

/-- A mapping of these names. -/
def ofNames (entries : List (String × Yaml)) : Yaml :=
  .mapping (entries.map fun (name, v) => (text name, v))

def ofInt (n : Int) : Yaml := .scalar (.number (.int n))

def names (path : List String) : List Yaml := path.map text

/-- Settings with a mapping two levels down, and a mapping and a number that are both replaced. -/
def sampleBelow : Yaml :=
  ofNames [("db", ofNames [("url", text "old"),
      ("pool", ofNames [("max", ofInt 9), ("min", ofInt 1)])]),
    ("flat", ofInt 5), ("gone", ofNames [("x", ofInt 1)])]

def sampleAbove : Yaml :=
  ofNames [("flat", ofNames [("deep", .scalar (.truth true))]), ("gone", .sequence []),
    ("db", ofNames [("name", text "n"), ("pool", ofNames [("max", null)])])]

theorem merge_is_deep_sample :
    sampleAbove.distinctKeys = true ∧
    (sampleBelow.merge sampleAbove).at? (names ["db", "pool", "max"]) = some null ∧
    (sampleBelow.merge sampleAbove).at? (names ["gone"]) = some (.sequence []) ∧
    (∃ both, (sampleBelow.merge sampleAbove).at? (names ["db"]) = some (.mapping both) ∧
      Entries.keys both = names ["url", "pool", "name"]) ∧
    (sampleBelow.merge sampleAbove).at? (names ["flat"]) =
      some (ofNames [("deep", .scalar (.truth true))]) ∧
    (sampleBelow.merge sampleAbove).at? (names ["db", "pool"] ++ [text "min"]) = some (ofInt 1) ∧
    (sampleBelow.merge sampleAbove).merge sampleAbove = sampleBelow.merge sampleAbove ∧
    (sampleBelow.merge sampleAbove).distinctKeys = true := by
  have distinct : sampleAbove.distinctKeys = true := by decide +kernel
  obtain ⟨replaced, united, lifted, kept, again, sound⟩ := merge_is_deep distinct sampleBelow
  obtain ⟨both, found, keys, _⟩ := united (names ["db"])
    [(text "url", text "old"), (text "pool", ofNames [("max", ofInt 9), ("min", ofInt 1)])]
    [(text "name", text "n"), (text "pool", ofNames [("max", null)])] (by decide +kernel)
    (by decide +kernel)
  refine ⟨distinct, replaced _ _ (by decide +kernel) (by simp [null]),
    replaced _ _ (by decide +kernel) nofun, ⟨both, found, keys.trans (by decide +kernel)⟩,
    lifted _ _ (by decide +kernel) fun low same => ?_, ?_, again, sound (by decide +kernel)⟩
  · have plain : sampleBelow.at? (names ["flat"]) = some (ofInt 5) := by decide +kernel
    cases plain.symm.trans same
  · rw [kept _ _ [(text "max", ofInt 9), (text "min", ofInt 1)] [(text "max", null)]
      (by decide +kernel) (by decide +kernel) (by decide +kernel)]
    decide +kernel

end BulkActions.Yaml
