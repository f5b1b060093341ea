import BulkActions.Proofs.Decode.Order
import BulkActions.Proofs.Yaml.Entries
import BulkActions.Proofs.Yaml.Overlay
import BulkActions.Proofs.Yaml.Read
import BulkActions.Settings.Load

/-! What the sections of other environments do to the settings of one. They are taken out of the
document, and each time the last entry moves into the gap. The order of the entries decides which of
several faults is reported, and nothing else. -/

namespace BulkActions.Settings

open Decode Yaml.Entries

/-- The sections of all environments but one. -/
def otherSections (environment : String) : List String := sectionNames.filter (· ≠ environment)

/-- A document without the sections of these names. A mark does not hide them. -/
def withoutSections (names : List String) : Yaml → Yaml
  | .mapping entries => .mapping (without names entries)
  | .tagged tag v => .tagged tag (withoutSections names v)
  | v => v

theorem get?_withoutSections {names : List String} {name : String} (kept : name ∉ names) :
    (v : Yaml) → (withoutSections names v).get? (.text name) = v.get? (.text name)
  | .mapping entries => by
    have apart : Yaml.text name ∉ names.map Yaml.text := by
      intro named
      obtain ⟨other, member, same⟩ := List.mem_map.mp named
      cases same
      exact kept member
    exact find?_without apart
  | .tagged _ v => get?_withoutSections kept v
  | .scalar _ | .sequence _ => rfl

/-- Taking out more sections, those taken out before leave no trace. -/
theorem withoutSections_idem {few many : List String} (within : ∀ name ∈ few, name ∈ many) :
    (v : Yaml) → withoutSections many (withoutSections few v) = withoutSections many v
  | .mapping entries => by
    have covered (key : Yaml) (named : key ∈ few.map Yaml.text) : key ∈ many.map Yaml.text := by
      obtain ⟨name, member, rfl⟩ := List.mem_map.mp named
      exact List.mem_map_of_mem (within name member)
    simp only [withoutSections, without, List.filter_filter, Yaml.mapping.injEq]
    refine List.filter_congr fun entry _ => ?_
    by_cases named : entry.1 ∈ few.map Yaml.text
    · simp [named, covered entry.1 named]
    · simp [named]
  | .tagged tag v => by
    rw [withoutSections, withoutSections, withoutSections, withoutSections_idem within v]
  | .scalar _ | .sequence _ => rfl

theorem withoutSections_merge (names : List String) (v : Yaml) (overrides : Yaml.Entries) :
    withoutSections names (v.merge (.mapping overrides)) =
      (withoutSections names v).merge (withoutSections names (.mapping overrides)) := by
  cases v with
  | mapping entries =>
    exact congrArg Yaml.mapping (without_mergeEntries entries overrides)
  | scalar _ => simp [Yaml.merge, withoutSections]
  | sequence _ => simp [Yaml.merge, withoutSections]
  | tagged _ _ => simp [Yaml.merge, withoutSections]

/-- The same document apart from the sections, and from the order of its entries. -/
inductive Rearranged : Yaml → Yaml → Prop where
  | same (v : Yaml) : Rearranged v v
  | mapping {entries others : Yaml.Entries}
      (moved : (without sectionNames entries).Perm (without sectionNames others)) :
      Rearranged (.mapping entries) (.mapping others)
  | tagged (tag : String) {v w : Yaml} (inner : Rearranged v w) :
      Rearranged (.tagged tag v) (.tagged tag w)

theorem rearranged_of_withoutSections :
    {v w : Yaml} → withoutSections sectionNames v = withoutSections sectionNames w →
      Rearranged v w
  | .mapping entries, w, same => by
    cases w with
    | mapping others => exact .mapping (.of_eq (Yaml.mapping.inj same))
    | _ => simp [withoutSections] at same
  | .tagged tag v, w, same => by
    cases w with
    | tagged other w =>
      obtain ⟨rfl, inner⟩ := Yaml.tagged.inj same
      exact .tagged tag (rearranged_of_withoutSections inner)
    | _ => simp [withoutSections] at same
  | .scalar s, w, same => by
    cases w with
    | scalar _ => cases Yaml.scalar.inj same; exact .same _
    | _ => simp [withoutSections] at same
  | .sequence items, w, same => by
    cases w with
    | sequence _ => cases Yaml.sequence.inj same; exact .same _
    | _ => simp [withoutSections] at same

theorem Rearranged.eraseAll {v w : Yaml} (moved : Rearranged v w) :
    Rearranged (v.eraseAll sectionNames) (w.eraseAll sectionNames) := by
  cases moved with
  | same v => exact .same _
  | @mapping entries others moved =>
    have left := without_foldl_erase sectionNames (fun _ member => member) entries
    have right := without_foldl_erase sectionNames (fun _ member => member) others
    exact .mapping ((left.trans moved).trans right.symm)
  | tagged tag inner => exact .tagged tag inner

/-- The settings as a record. -/
def record : Record Yaml Settings :=
  let default : Settings := {}
  Settings.mk
    <$> .defaulted "environment" text default.environment
    <*> .defaulted "database" DatabaseSettings.decoder default.database
    <*> .defaulted "dataset_mapping" DatasetSettings.decoder default.dataset
    <*> .defaulted "evaluation" EvaluationSettings.decoder default.evaluation
    <*> .defaulted "summary" SummarySettings.decoder default.summary

theorem decoder_eq : Settings.decoder = record.decoder "BatchActionsConfig" := rfl

theorem readsFields_record : record.ReadsFields :=
  ((((((Record.readsFields_defaulted _ _ _).map _).seq
    (Record.readsFields_defaulted _ _ _)).seq
    (Record.readsFields_defaulted _ _ _)).seq
    (Record.readsFields_defaulted _ _ _)).seq
    (Record.readsFields_defaulted _ _ _))

/-- No section has the name of a field. -/
theorem lookup_section {name : String} (member : name ∈ sectionNames) :
    record.fields.lookup name = none := by
  have known : name = "development" ∨ name = "test" ∨ name = "production" := by
    simpa [sectionNames] using member
  rcases known with rfl | rfl | rfl <;> rfl

/-- The members of a mapping. -/
def membersOf (entries : Yaml.Entries) : List (Key × Yaml) :=
  entries.map fun entry => (Yaml.keyOf entry.1, entry.2)

theorem filter_membersOf (entries : Yaml.Entries) :
    (membersOf entries).filter (Record.isKnown record.fields) =
      (membersOf (without sectionNames entries)).filter (Record.isKnown record.fields) := by
  induction entries with
  | nil => rfl
  | cons entry rest ih =>
    by_cases named : entry.1 ∈ sectionNames.map Yaml.text
    · rw [without_cons_of_mem named, ← ih]
      obtain ⟨name, member, own⟩ := List.mem_map.mp named
      refine List.filter_cons_of_neg ?_
      simp [Record.isKnown, ← own, Yaml.keyOf, Yaml.text, Yaml.untagged, lookup_section member]
    · rw [without_cons_of_not_mem named]
      simp only [membersOf, List.map_cons, List.filter_cons] at ih ⊢
      rw [ih]

/-- A reason to refuse a document: a fault among its members. -/
def Refutes (v : Yaml) (e : Decode.Error) : Prop :=
  ∃ members, Source.shape v = .map members ∧ Record.Fault record.fields members e

/-- Seen as members, rearranged documents are the same or differ in the order of their members. -/
theorem Rearranged.shape {v w : Yaml} (moved : Rearranged v w) :
    v = w ∨ ∃ members others, Source.shape v = .map members ∧ Source.shape w = .map others ∧
      Record.Reordered record.fields members others := by
  induction moved with
  | same v => exact .inl rfl
  | @mapping entries others moved =>
    refine .inr ⟨membersOf entries, membersOf others, rfl, rfl, ?_⟩
    rw [Record.Reordered, filter_membersOf entries, filter_membersOf others]
    exact (moved.map _).filter _
  | tagged tag inner ih =>
    rcases ih with rfl | ⟨members, others, left, right, reordered⟩
    · exact .inl rfl
    · exact .inr ⟨members, others, left, right, reordered⟩

/-- Rearranged documents give the same settings or the same error, unless two faults refute them. -/
theorem Rearranged.decoder {v w : Yaml} (moved : Rearranged v w) :
    Settings.decoder v = Settings.decoder w ∨
      ∃ x y, x ≠ y ∧ Refutes v x ∧ Refutes v y ∧
        Settings.decoder v = .error x ∧ Settings.decoder w = .error y := by
  rcases moved.shape with rfl | ⟨members, others, left, right, reordered⟩
  · exact .inl rfl
  · have first : Settings.decoder v = record.ofMembers members := by
      rw [decoder_eq, Record.decoder, left]
    have second : Settings.decoder w = record.ofMembers others := by
      rw [decoder_eq, Record.decoder, right]
    rw [first, second]
    rcases Record.ofMembers_reordered readsFields_record reordered with same | differ
    · exact .inl same
    · obtain ⟨x, y, apart, own, also, failed, failing⟩ := differ
      exact .inr ⟨x, y, apart, ⟨members, left, own⟩, ⟨members, left, also⟩, failed, failing⟩

/-- The error of a file whose document cannot be read as settings. -/
def undecodable (file : String) (e : Decode.Error) : Error :=
  .invalidYaml file s!"Failed to deserialize configuration: {e.message}"

theorem sectionOf_withoutSections (environment : String) (v : Yaml) :
    sectionOf environment (withoutSections (otherSections environment) v) =
      sectionOf environment v := by
  have kept : environment ∉ otherSections environment := by simp [otherSections]
  rw [sectionOf, sectionOf, get?_withoutSections kept]

/-- A document that is read has distinct keys, and so has the section that is merged over it. -/
theorem distinctKeys_of_present {s : Surroundings} {path environment : String}
    {document overrides : Yaml} (read : readDocument s path = .ok document)
    (present : sectionOf environment document = .present overrides) :
    document.distinctKeys = true ∧ overrides.distinctKeys = true := by
  have distinct : document.distinctKeys = true := by
    unfold readDocument at read
    split at read
    · cases read
    · rename_i text _
      cases parsed : Yaml.parse text with
      | error e => rw [parsed] at read; cases read
      | ok v =>
        rw [parsed] at read
        cases read
        exact Yaml.parse_distinctKeys parsed
  unfold sectionOf at present
  split at present
  · cases present
  · cases present
  · rename_i entries found
    cases present
    exact ⟨distinct, Yaml.distinctKeys_of_get? distinct found⟩
  · cases present

/-- A document that is read is merged deeply with the section of its environment, as no key of either
comes twice. Where the section holds a value it counts over that of the document; what it leaves out
of a mapping stays as the document has it; and merging it again changes nothing. -/
theorem read_documents_merge_deeply {s : Surroundings} {path environment : String}
    {document overrides : Yaml} (read : readDocument s path = .ok document)
    (present : sectionOf environment document = .present overrides) :
    (∀ keys v, overrides.at? keys = some v →
      (document.merge overrides).at? keys = some (Yaml.overlaid (document.at? keys) v)) ∧
    (∀ keys key low high, document.at? keys = some (.mapping low) →
      overrides.at? keys = some (.mapping high) → overrides.at? (keys ++ [key]) = none →
      (document.merge overrides).at? (keys ++ [key]) = document.at? (keys ++ [key])) ∧
    (document.merge overrides).merge overrides = document.merge overrides ∧
    (document.merge overrides).distinctKeys = true := by
  obtain ⟨own, above⟩ := distinctKeys_of_present read present
  refine ⟨fun keys v top => Yaml.at?_merge above document top, fun keys key low high under top absent =>
    Yaml.at?_merge_of_absent above under top absent, Yaml.merge_merge above document,
    Yaml.distinctKeys_merge above own⟩

/-- Documents that differ in the sections of other environments are in force in the same form, but
for the order of the entries. -/
theorem effective?_rearranged {environment : String} {d e : Yaml}
    (alike : withoutSections (otherSections environment) d =
      withoutSections (otherSections environment) e) :
    (effective? environment d = none ∧ effective? environment e = none) ∨
      ∃ v w, effective? environment d = some v ∧ effective? environment e = some w ∧
        Rearranged v w := by
  have own : sectionOf environment d = sectionOf environment e := by
    rw [← sectionOf_withoutSections environment d, alike, sectionOf_withoutSections]
  have within (name : String) (member : name ∈ otherSections environment) : name ∈ sectionNames :=
    (List.mem_filter.mp member).1
  have bare : withoutSections sectionNames d = withoutSections sectionNames e := by
    rw [← withoutSections_idem within d, alike, withoutSections_idem within e]
  simp only [effective?, own]
  cases found : sectionOf environment e with
  | absent =>
    exact .inr ⟨_, _, rfl, rfl, (rearranged_of_withoutSections bare).eraseAll⟩
  | present overrides =>
    obtain ⟨entries, rfl⟩ : ∃ entries, overrides = .mapping entries := by
      unfold sectionOf at found
      split at found
      · cases found
      · cases found
      · exact ⟨_, (Section.present.inj found).symm⟩
      · cases found
    have merged : withoutSections sectionNames (d.merge (.mapping entries)) =
        withoutSections sectionNames (e.merge (.mapping entries)) := by
      rw [withoutSections_merge, withoutSections_merge, bare]
    exact .inr ⟨_, _, rfl, rfl, (rearranged_of_withoutSections merged).eraseAll⟩
  | malformed => exact .inl ⟨rfl, rfl⟩

/-- Documents that differ in the sections of other environments give the same settings or the same
error. Only where two faults refute the document in force, each of them may report another one. -/
theorem other_sections_keep_result (environment file : String) {d e : Yaml}
    (alike : withoutSections (otherSections environment) d =
      withoutSections (otherSections environment) e) :
    ofDocument environment file d = ofDocument environment file e ∨
      ∃ v x y, x ≠ y ∧ effective? environment d = some v ∧ Refutes v x ∧ Refutes v y ∧
        ofDocument environment file d = .error (undecodable file x) ∧
        ofDocument environment file e = .error (undecodable file y) := by
  rcases effective?_rearranged alike with ⟨left, right⟩ | ⟨v, w, left, right, moved⟩
  · simp only [ofDocument, left, right, true_or]
  · rcases moved.decoder with same | ⟨x, y, apart, own, also, failed, failing⟩
    · simp only [ofDocument, left, right, same, true_or]
    · refine .inr ⟨v, x, y, apart, left, own, also, ?_, ?_⟩
      · simp only [ofDocument, left, failed]
        rfl
      · simp only [ofDocument, right, failing]
        rfl

def named (entries : List (String × Yaml)) : Yaml :=
  .mapping (entries.map fun (name, v) => (.text name, v))

def quantity (n : Int) : Yaml := .scalar (.number (.int n))

/-- Overrides that write into the section of another environment. -/
def crossing : List (String × Yaml) :=
  [("evaluation", named [("batch_size", quantity 7)]),
    ("test", named [("production", named [("summary", quantity 0)]),
      ("evaluation", named [("max_concurrency", quantity 3)])])]

/-- The section in front moves other entries when it is taken out, and would be refused itself. -/
def crossingBehind : List (String × Yaml) := ("production", quantity 5) :: crossing

theorem other_sections_keep_result_crossing :
    withoutSections (otherSections "test") (named crossingBehind) =
      withoutSections (otherSections "test") (named crossing) ∧
    ofDocument "test" "f" (named crossingBehind) = ofDocument "test" "f" (named crossing) ∧
    (ofDocument "test" "f" (named crossing)).toOption.map (·.evaluation) = some ⟨7, 3, 100⟩ := by
  have alike : withoutSections (otherSections "test") (named crossingBehind) =
      withoutSections (otherSections "test") (named crossing) := by decide +kernel
  have read : (ofDocument "test" "f" (named crossing)).toOption.map (·.evaluation) =
      some ⟨7, 3, 100⟩ := by decide +kernel
  refine ⟨alike, ?_, read⟩
  rcases other_sections_keep_result "test" "f" alike with same | ⟨_, _, _, _, _, _, _, _, failed⟩
  · exact same
  · simp [failed, Except.toOption] at read

/-- A document with two faults. -/
def refutedTwice : List (String × Yaml) := [("database", quantity 1), ("summary", quantity 2)]

def refutedBehind : List (String × Yaml) := ("production", named []) :: refutedTwice

/-- With an empty section for production in front, a document for development is refused for its
other fault. -/
theorem other_section_picks_fault :
    withoutSections (otherSections "development") (named refutedBehind) =
      withoutSections (otherSections "development") (named refutedTwice) ∧
    ofDocument "development" "f" (named refutedTwice) =
      .error (undecodable "f" (.wrongType (.integer 1) "struct DatabaseConfig")) ∧
    ofDocument "development" "f" (named refutedBehind) =
      .error (undecodable "f" (.wrongType (.integer 2) "struct SummarySettings")) ∧
    ofDocument "development" "f" (named refutedBehind) ≠
      ofDocument "development" "f" (named refutedTwice) := by
  have plain : ofDocument "development" "f" (named refutedTwice) =
      .error (undecodable "f" (.wrongType (.integer 1) "struct DatabaseConfig")) := rfl
  have behind : ofDocument "development" "f" (named refutedBehind) =
      .error (undecodable "f" (.wrongType (.integer 2) "struct SummarySettings")) := rfl
  refine ⟨by decide +kernel, plain, behind, ?_⟩
  rw [plain, behind]
  intro same
  exact absurd (Except.error.inj same) (by decide)

end BulkActions.Settings
