import Mathlib.Data.List.Nodup
import BulkActions.Proofs.Path.Suggested

/-! The walk that finds the suggested paths, way by way. It takes no way twice, and the steps of a
way can be read off its text, so that no two places of a document are given one path. -/

namespace BulkActions.Path

mutual

/-- The ways from a value, in the order in which the walk takes them. -/
def ways : Json → List (List Step)
  | .arr items => [.first] :: [.every] :: waysFirst items
  | .obj fields => waysFields fields
  | _ => []

def waysFirst : List Json → List (List Step)
  | [] => []
  | first :: _ => (ways first).map (.first :: ·)

def waysFields : List (String × Json) → List (List Step)
  | [] => []
  | (name, v) :: rest =>
    if (memberStep? name).isSome then
      [.member name] :: (ways v).map (.member name :: ·) ++ waysFields rest
    else waysFields rest

end

mutual

/-- What is suggested are the texts of the ways, one for each. -/
theorem suggest_eq_map (base : String) :
    ∀ v : Json, suggest base v = (ways v).map fun way => base ++ textOf way
  | .null | .bool _ | .num _ | .str _ => rfl
  | .arr [] => by simp [suggest, suggestFirst, ways, waysFirst, Step.text]
  | .arr (first :: _) => by
    simp [suggest, suggestFirst, ways, waysFirst, suggest_eq_map (base ++ "[0]") first, Step.text,
      String.append_assoc]
  | .obj fields => by rw [suggest, ways, suggestFields_eq_map base fields]

theorem suggestFields_eq_map (base : String) :
    ∀ fields : List (String × Json),
      suggestFields base fields = (waysFields fields).map fun way => base ++ textOf way
  | [] => rfl
  | (name, v) :: rest => by
    have tail := suggestFields_eq_map base rest
    cases stepped : memberStep? name with
    | none => simp [suggestFields, waysFields, stepped, tail]
    | some step =>
      simp [suggestFields, waysFields, stepped, tail, suggest_eq_map (base ++ step) v, Step.text,
        String.append_assoc]

end

section Points

variable {v : Json} {way : List Step} {target : Match}

theorem Points.ne_nil (points : Points v way target) : way ≠ [] := by
  cases points <;> simp

/-- A further member in front hides no way. -/
theorem Points.cons {fields : List (String × Json)} (points : Points (.obj fields) way target)
    (binding : String × Json) : Points (.obj (binding :: fields)) way target := by
  cases points with
  | member present stepped => exact .member (List.mem_cons_of_mem _ present) stepped
  | belowMember present stepped below =>
    exact .belowMember (List.mem_cons_of_mem _ present) stepped below

/-- A way through an object begins at one of its members. -/
theorem Points.exists_member {fields : List (String × Json)}
    (points : Points (.obj fields) way target) :
    ∃ name rest, way = .member name :: rest ∧ name ∈ Assoc.keys fields := by
  cases points with
  | member present _ => exact ⟨_, _, rfl, List.mem_map.mpr ⟨_, present, rfl⟩⟩
  | belowMember present _ _ => exact ⟨_, _, rfl, List.mem_map.mpr ⟨_, present, rfl⟩⟩

end Points

/-! The walk takes exactly the ways that point at something. -/

theorem mem_waysFields {fields : List (String × Json)} {name : String} {v : Json} {way : List Step}
    (present : (name, v) ∈ fields) (stepped : (memberStep? name).isSome)
    (within : way = [.member name] ∨ ∃ rest ∈ ways v, way = .member name :: rest) :
    way ∈ waysFields fields := by
  induction fields with
  | nil => cases present
  | cons binding rest ih =>
    obtain ⟨other, w⟩ := binding
    rw [waysFields]
    rcases List.mem_cons.mp present with same | later
    · cases same
      rw [if_pos stepped]
      apply List.mem_append_left
      rcases within with rfl | ⟨deeper, below, rfl⟩
      · exact List.mem_cons_self
      · exact List.mem_cons_of_mem _ (List.mem_map.mpr ⟨deeper, below, rfl⟩)
    · split
      · exact List.mem_append_right _ (ih later)
      · exact ih later

theorem mem_ways_of_points {v : Json} {way : List Step} {target : Match}
    (points : Points v way target) : way ∈ ways v := by
  induction points with
  | member present stepped =>
    rw [ways]
    exact mem_waysFields present stepped (.inl rfl)
  | belowMember present stepped _ ih =>
    rw [ways]
    exact mem_waysFields present stepped (.inr ⟨_, ih, rfl⟩)
  | belowFirst rest _ ih => simp [ways, waysFirst, ih]
  | first | only | every | noFirst | noItem => simp [ways]

mutual

theorem exists_points {way : List Step} :
    ∀ v : Json, way ∈ ways v → ∃ target, Points v way target
  | .null, member | .bool _, member | .num _, member | .str _, member => by cases member
  | .arr [], member => by
    simp only [ways, waysFirst, List.mem_cons, List.not_mem_nil, or_false] at member
    rcases member with rfl | rfl
    · exact ⟨_, .noFirst⟩
    · exact ⟨_, .noItem⟩
  | .arr (first :: rest), member => by
    simp only [ways, waysFirst, List.mem_cons, List.mem_map] at member
    rcases member with rfl | rfl | ⟨deeper, below, rfl⟩
    · exact ⟨_, .first first rest⟩
    · cases rest with
      | nil => exact ⟨_, .only first⟩
      | cons second rest => exact ⟨_, .every first second rest⟩
    · obtain ⟨target, points⟩ := exists_points first below
      exact ⟨target, .belowFirst rest points⟩
  | .obj fields, member => by
    rw [ways] at member
    exact exists_points_fields fields member

theorem exists_points_fields {way : List Step} :
    ∀ fields : List (String × Json), way ∈ waysFields fields →
      ∃ target, Points (.obj fields) way target
  | [], member => by cases member
  | (name, v) :: rest, member => by
    have later : way ∈ waysFields rest → ∃ target, Points (.obj ((name, v) :: rest)) way target :=
      fun member =>
        have ⟨target, points⟩ := exists_points_fields rest member
        ⟨target, points.cons _⟩
    rw [waysFields] at member
    split at member
    · rename_i stepped
      rcases List.mem_append.mp member with own | other
      · rcases List.mem_cons.mp own with rfl | deeper
        · exact ⟨_, .member List.mem_cons_self stepped⟩
        · obtain ⟨more, below, rfl⟩ := List.mem_map.mp deeper
          obtain ⟨target, points⟩ := exists_points v below
          exact ⟨target, .belowMember List.mem_cons_self stepped points⟩
      · exact later other
    · exact later member

end

theorem mem_ways_iff (v : Json) (way : List Step) :
    way ∈ ways v ↔ ∃ target, Points v way target :=
  ⟨exists_points v, fun ⟨_, points⟩ => mem_ways_of_points points⟩

/-! No way is taken twice. -/

theorem nil_not_mem_ways (v : Json) : [] ∉ ways v := by
  intro member
  obtain ⟨target, points⟩ := exists_points v member
  exact points.ne_nil rfl

/-- A step, followed by the ways from where it leads. -/
theorem nodup_ways_after (step : Step) {v : Json} (nodup : (ways v).Nodup) :
    ([step] :: (ways v).map (step :: ·)).Nodup := by
  rw [List.nodup_cons]
  constructor
  · intro member
    obtain ⟨way, present, same⟩ := List.mem_map.mp member
    cases (List.cons.inj same).2
    exact nil_not_mem_ways v present
  · exact nodup.map fun _ _ same => (List.cons.inj same).2

mutual

theorem nodup_ways : ∀ v : Json, v.distinctKeys = true → (ways v).Nodup
  | .null, _ | .bool _, _ | .num _, _ | .str _, _ => List.nodup_nil
  | .arr [], _ => by simp [ways, waysFirst]
  | .arr (first :: rest), distinct => by
    have below := nodup_ways first ((Json.distinctKeys_arr _).mp distinct _ List.mem_cons_self)
    obtain ⟨fresh, nodup⟩ := List.nodup_cons.mp (nodup_ways_after .first below)
    simp only [ways, waysFirst, List.nodup_cons, List.mem_cons, not_or]
    exact ⟨⟨by simp, fresh⟩, by simp, nodup⟩
  | .obj fields, distinct => by
    obtain ⟨keys, members⟩ := (Json.distinctKeys_obj fields).mp distinct
    rw [ways]
    exact nodup_waysFields fields keys members

theorem nodup_waysFields :
    ∀ fields : List (String × Json), (Assoc.keys fields).Nodup →
      (∀ binding ∈ fields, binding.2.distinctKeys = true) → (waysFields fields).Nodup
  | [], _, _ => List.nodup_nil
  | (name, v) :: rest, keys, members => by
    obtain ⟨fresh, laterKeys⟩ := List.nodup_cons.mp keys
    obtain ⟨own, later⟩ := List.forall_mem_cons.mp members
    have tail := nodup_waysFields rest laterKeys later
    rw [waysFields]
    split
    · refine List.nodup_append.mpr ⟨nodup_ways_after _ (nodup_ways v own), tail, ?_⟩
      -- the ways on either side begin at members of different names
      rintro way here other there rfl
      obtain ⟨target, points⟩ := exists_points_fields rest there
      obtain ⟨first, more, rfl, present⟩ := points.exists_member
      have same : first = name := by
        rcases List.mem_cons.mp here with whole | deeper
        · exact Step.member.inj (List.cons.inj whole).1
        · obtain ⟨_, _, equal⟩ := List.mem_map.mp deeper
          exact (Step.member.inj (List.cons.inj equal).1).symm
      exact fresh (same ▸ present)
    · exact tail

end

/-! The steps of a way are read off its text. -/

theorem Reads.unique {cs : List Char} {tokens others : List Token} (reads : Reads cs tokens)
    (also : Reads cs others) : tokens = others :=
  (reads cs.length (Nat.le_refl _)).symm.trans (also cs.length (Nat.le_refl _))

/-- The step that tokens begin with, and the tokens behind it. -/
def firstStep : List Token → Option (Step × List Token)
  | .dot :: .key name :: rest => some (.member name, rest)
  | .openBracket :: .quoted name :: .closeBracket :: rest => some (.member name, rest)
  | .openBracket :: .key _ :: .closeBracket :: rest => some (.first, rest)
  | .openBracket :: .star :: .closeBracket :: rest => some (.every, rest)
  | _ => none

theorem firstStep_tokens (step : Step) (rest : List Token) :
    firstStep (step.tokens ++ rest) = some (step, rest) := by
  cases step with
  | member name =>
    rw [Step.tokens]
    split <;> rfl
  | first | every => rfl

theorem flatMap_tokens_inj {way other : List Step}
    (same : way.flatMap Step.tokens = other.flatMap Step.tokens) : way = other := by
  have read := congrArg firstStep same
  induction way generalizing other with
  | nil =>
    cases other with
    | nil => rfl
    | cons next more =>
      rw [List.flatMap_cons, firstStep_tokens] at read
      cases read
  | cons step rest ih =>
    rw [List.flatMap_cons, firstStep_tokens] at read
    cases other with
    | nil => cases read
    | cons next more =>
      rw [List.flatMap_cons, firstStep_tokens] at read
      obtain ⟨rfl, later⟩ := Prod.mk.inj (Option.some.inj read)
      rw [ih later (congrArg firstStep later)]

/-- Whatever the names on the way hold, no other way has its text. -/
theorem textOf_inj {way other : List Step} (addressable : ∀ step ∈ way, step.Addressable)
    (also : ∀ step ∈ other, step.Addressable) (same : textOf way = textOf other) : way = other := by
  have read := reads_textOf also
  rw [← same] at read
  exact flatMap_tokens_inj ((reads_textOf addressable).unique read)

/-- The paths suggested under a base are the texts of the ways through the document, each of which
points at something. No two ways have one path, and no path is suggested twice. -/
theorem suggested_paths_are_distinct (base : String) {document : Json}
    (distinct : document.distinctKeys = true) :
    (suggest base document).Nodup ∧
    suggest base document = (ways document).map (fun way => base ++ textOf way) ∧
    (∀ way, way ∈ ways document ↔ ∃ target, Points document way target) ∧
    ∀ way ∈ ways document, ∀ other ∈ ways document,
      base ++ textOf way = base ++ textOf other → way = other := by
  have apart : ∀ way ∈ ways document, ∀ other ∈ ways document,
      base ++ textOf way = base ++ textOf other → way = other := by
    intro way taken other also same
    obtain ⟨_, points⟩ := exists_points document taken
    obtain ⟨_, others⟩ := exists_points document also
    exact textOf_inj points.addressable others.addressable ((String.append_right_inj base).mp same)
  refine ⟨?_, suggest_eq_map base document, mem_ways_iff document, apart⟩
  rw [suggest_eq_map]
  exact (nodup_ways document distinct).map_on apart

/-- Names that imitate steps, ends of steps, and two steps at once. -/
def imitatingDocument : Json :=
  .obj [("a", .obj [("b", .null), ("']['", .null)]), ("a.b", .null), ("a']['b", .null),
    ("", .arr [.obj [("", .null)]]), ("[0]", .null), ("0", .null), ("*", .null)]

theorem suggested_paths_are_distinct_imitating :
    imitatingDocument.distinctKeys = true ∧
    suggest "$" imitatingDocument = ["$.a", "$.a.b", "$.a[\"']['\"]", "$['a.b']", "$[\"a']['b\"]",
      "$['']", "$[''][0]", "$[''][*]", "$[''][0]['']", "$['[0]']", "$['0']", "$['*']"] ∧
    (suggest "$" imitatingDocument).Nodup ∧
    ∀ way ∈ ways imitatingDocument, ∀ other ∈ ways imitatingDocument,
      "$" ++ textOf way = "$" ++ textOf other → way = other :=
  have distinct : imitatingDocument.distinctKeys = true := by decide
  have whole := suggested_paths_are_distinct "$" distinct
  ⟨distinct, by decide, whole.1, whole.2.2.2⟩

end BulkActions.Path
