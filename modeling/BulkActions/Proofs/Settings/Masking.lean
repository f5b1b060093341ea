import BulkActions.Settings.Mask

/-! What masking leaves and what it takes away, at every depth. Outside of sensitive keys a document
stays as it is. Below them only nulls, empty texts and placeholders can be told from secrets, so that
documents look the same exactly where they are the same up to secrets. -/

namespace BulkActions.Json

/-- A step down a document, to the member of a name or to the item at a place. -/
inductive Step where
  | member (name : String)
  | item (index : Nat)
  deriving DecidableEq

def step? (v : Json) : Step → Option Json
  | .member name => v.get? name
  | .item index =>
    match v with
    | .arr items => items[index]?
    | _ => none

/-- The value at a path, if there is one. -/
def at? (v : Json) : List Step → Option Json
  | [] => some v
  | step :: rest => (v.step? step).bind (·.at? rest)

theorem at?_append (v : Json) (path rest : List Step) :
    v.at? (path ++ rest) = (v.at? path).bind (·.at? rest) := by
  induction path generalizing v with
  | nil => rfl
  | cons step path ih =>
    simp only [List.cons_append, at?]
    cases v.step? step with
    | none => rfl
    | some w => exact ih w

/-- A value without what is inside: the size of an array, the keys of an object in their order, and
any other value as a whole. -/
inductive Outline where
  | atom (v : Json)
  | array (size : Nat)
  | object (keys : List String)
  deriving DecidableEq

def outline : Json → Outline
  | .arr items => .array items.length
  | .obj fields => .object (fields.map Prod.fst)
  | v => .atom v

end BulkActions.Json

namespace BulkActions.Settings

open Json (Step)

/-- A key whose lowercase form contains a sensitive word. -/
def NamesSecret (key : String) : Prop :=
  ∃ word ∈ sensitiveWords, word.toList <:+: (Text.lowercase key).toList

/-- Everything but a null, an empty text and a text that begins like a placeholder. -/
def IsSecret : Json → Prop
  | .null => False
  | .str s => s ≠ "" ∧ ¬ ['$', '{'] <+: s.toList
  | _ => True

/-- What is shown of a value below a sensitive key. -/
inductive Covers : Json → Json → Prop where
  | null : Covers .null .null
  | empty : Covers (.str "") (.str "[EMPTY]")
  | placeholder {s : String} (begins : ['$', '{'] <+: s.toList) : Covers (.str s) (.str s)
  | secret {v : Json} (secret : IsSecret v) : Covers v (.str "[MASKED]")

/-- A step that does not lead below a sensitive key. -/
def StaysShown : Step → Prop
  | .member name => ¬ NamesSecret name
  | .item _ => True

/-- A path to a value that is not below a sensitive key. -/
def IsOpen (path : List Step) : Prop := ∀ step ∈ path, StaysShown step

mutual

/-- The same document up to secrets: below a sensitive key there may be one secret for another. -/
inductive SameButSecrets : Json → Json → Prop where
  | same (v : Json) : SameButSecrets v v
  | arr {as bs : List Json} (items : SameItems as bs) : SameButSecrets (.arr as) (.arr bs)
  | obj {as bs : List (String × Json)} (fields : SameFields as bs) :
      SameButSecrets (.obj as) (.obj bs)

inductive SameItems : List Json → List Json → Prop where
  | nil : SameItems [] []
  | cons {v w : Json} {as bs : List Json} (item : SameButSecrets v w) (rest : SameItems as bs) :
      SameItems (v :: as) (w :: bs)

inductive SameFields : List (String × Json) → List (String × Json) → Prop where
  | nil : SameFields [] []
  | plain {name : String} {v w : Json} {as bs : List (String × Json)}
      (shown : ¬ NamesSecret name) (value : SameButSecrets v w) (rest : SameFields as bs) :
      SameFields ((name, v) :: as) ((name, w) :: bs)
  | secret {name : String} {v w : Json} {as bs : List (String × Json)}
      (hidden : NamesSecret name) (value : v = w ∨ IsSecret v ∧ IsSecret w)
      (rest : SameFields as bs) : SameFields ((name, v) :: as) ((name, w) :: bs)

end

section Words

theorem occursIn_iff (word text : List Char) : occursIn word text = true ↔ word <:+: text := by
  induction text with
  | nil => simp [occursIn]
  | cons c rest ih =>
    rw [occursIn, Bool.or_eq_true, ih, List.infix_cons_iff, List.isPrefixOf_iff_prefix]

theorem isSensitive_iff (key : String) : isSensitive key = true ↔ NamesSecret key := by
  simp only [isSensitive, NamesSecret, List.any_eq_true, occursIn_iff]

theorem isSensitive_eq_false_iff (key : String) : isSensitive key = false ↔ ¬ NamesSecret key := by
  rw [← isSensitive_iff, Bool.not_eq_true]

instance (key : String) : Decidable (NamesSecret key) := decidable_of_iff _ (isSensitive_iff key)

instance : DecidablePred StaysShown
  | .member name => inferInstanceAs (Decidable (¬ NamesSecret name))
  | .item _ => inferInstanceAs (Decidable True)

instance (path : List Step) : Decidable (IsOpen path) :=
  inferInstanceAs (Decidable (∀ step ∈ path, StaysShown step))

end Words

section Hidden

theorem covers_hide (v : Json) : Covers v (hide v) := by
  cases v with
  | null => exact .null
  | str s =>
    by_cases empty : s = ""
    · subst empty
      exact .empty
    · by_cases begins : ['$', '{'] <+: s.toList
      · simpa [hide, empty, beginsPlaceholder, begins] using Covers.placeholder begins
      · simpa [hide, empty, beginsPlaceholder, begins] using
          Covers.secret (v := .str s) ⟨empty, begins⟩
  | _ => exact .secret trivial

theorem hide_of_isSecret {v : Json} (secret : IsSecret v) : hide v = .str "[MASKED]" := by
  cases v with
  | null => exact secret.elim
  | str s => simp [hide, secret.1, beginsPlaceholder, secret.2]
  | _ => rfl

/-- The texts that stand for something else do not begin like a placeholder. -/
theorem not_begins_of_mark {s : String} (mark : s = "[EMPTY]" ∨ s = "[MASKED]") :
    ¬ ['$', '{'] <+: s.toList := by
  rcases mark with rfl | rfl <;> decide +kernel

/-- What is shown of a value tells it from every other, unless both are secrets. -/
theorem hide_eq_hide_iff (v w : Json) : hide v = hide w ↔ v = w ∨ IsSecret v ∧ IsSecret w := by
  constructor
  · intro same
    have left := covers_hide v
    have right := covers_hide w
    generalize hide v = shown at left same
    generalize hide w = other at right same
    cases left with
    | null => cases right <;> first | exact .inl rfl | cases same
    | empty =>
      cases right with
      | null => cases same
      | empty => exact .inl rfl
      | placeholder begins =>
        exact absurd begins (not_begins_of_mark (.inl (Json.str.inj same).symm))
      | secret => simp at same
    | placeholder begins =>
      cases right with
      | null => cases same
      | empty => exact absurd begins (not_begins_of_mark (.inl (Json.str.inj same)))
      | placeholder => exact .inl same
      | secret => exact absurd begins (not_begins_of_mark (.inr (Json.str.inj same)))
    | secret first =>
      cases right with
      | null => cases same
      | empty => simp at same
      | placeholder begins =>
        exact absurd begins (not_begins_of_mark (.inr (Json.str.inj same).symm))
      | secret second => exact .inr ⟨first, second⟩
  · rintro (rfl | ⟨left, right⟩)
    · rfl
    · rw [hide_of_isSecret left, hide_of_isSecret right]

theorem hide_eq_mark_iff (v : Json) : hide v = .str "[MASKED]" ↔ IsSecret v := by
  have mark : IsSecret (.str "[MASKED]") := ⟨by decide +kernel, not_begins_of_mark (.inr rfl)⟩
  rw [← hide_of_isSecret mark, hide_eq_hide_iff]
  constructor
  · rintro (rfl | ⟨secret, -⟩)
    · exact mark
    · exact secret
  · exact fun secret => .inr ⟨secret, mark⟩

end Hidden

section Open

theorem maskItems_eq_map (items : List Json) : maskItems items = items.map mask := by
  induction items with
  | nil => rfl
  | cons v rest ih => rw [maskItems, ih, List.map_cons]

theorem keys_maskFields (fields : List (String × Json)) :
    (maskFields fields).map Prod.fst = fields.map Prod.fst := by
  induction fields with
  | nil => rfl
  | cons field rest ih => rw [maskFields, List.map_cons, List.map_cons, ih]

theorem find?_maskFields (name : String) (fields : List (String × Json)) :
    Assoc.find? (maskFields fields) name = (Assoc.find? fields name).map fun v =>
      if isSensitive name then hide v else mask v := by
  induction fields with
  | nil => rfl
  | cons field rest ih =>
    obtain ⟨key, value⟩ := field
    rw [maskFields, Assoc.find?_cons, Assoc.find?_cons, ih]
    by_cases own : name = key
    · simp [own]
    · simp [own]

theorem get?_mask (name : String) (v : Json) :
    (mask v).get? name = (v.get? name).map fun inner =>
      if isSensitive name then hide inner else mask inner := by
  cases v with
  | obj fields => simpa only [mask, Json.get?] using find?_maskFields name fields
  | _ => rfl

theorem outline_mask (v : Json) : (mask v).outline = v.outline := by
  cases v with
  | arr items => simp only [mask, Json.outline, maskItems_eq_map, List.length_map]
  | obj fields => simp only [mask, Json.outline, keys_maskFields]
  | _ => rfl

theorem step?_mask {step : Step} (shown : StaysShown step) (v : Json) :
    (mask v).step? step = (v.step? step).map mask := by
  cases step with
  | member name =>
    have plain := (isSensitive_eq_false_iff name).mpr shown
    have found := get?_mask name v
    simp only [plain, Bool.false_eq_true, if_false] at found
    exact found
  | item index =>
    cases v with
    | arr items => simp only [mask, Json.step?, maskItems_eq_map, List.getElem?_map]
    | _ => rfl

/-- On the way to a value that is shown, masking looks at nothing but that value. -/
theorem at?_mask {path : List Step} (shown : IsOpen path) (v : Json) :
    (mask v).at? path = (v.at? path).map mask := by
  induction path generalizing v with
  | nil => rfl
  | cons step rest ih =>
    obtain ⟨first, later⟩ := List.forall_mem_cons.mp shown
    rw [Json.at?, Json.at?, step?_mask first]
    cases v.step? step with
    | none => rfl
    | some w => exact ih later w

theorem at?_mask_member {path : List Step} (shown : IsOpen path) {name : String}
    (hidden : NamesSecret name) (v : Json) :
    (mask v).at? (path ++ [.member name]) = (v.at? (path ++ [.member name])).map hide := by
  rw [Json.at?_append, Json.at?_append, at?_mask shown]
  cases v.at? path with
  | none => rfl
  | some w =>
    simp only [Option.map_some, Option.bind_some, Json.at?, Json.step?, get?_mask,
      (isSensitive_iff name).mpr hidden, if_true, Option.bind_fun_some]

end Open

section TwoRuns

mutual

theorem mask_eq_of_same {v w : Json} : SameButSecrets v w → mask v = mask w
  | .same _ => rfl
  | .arr items => by rw [mask, mask, maskItems_eq_of_same items]
  | .obj fields => by rw [mask, mask, maskFields_eq_of_same fields]

theorem maskItems_eq_of_same {as bs : List Json} : SameItems as bs → maskItems as = maskItems bs
  | .nil => rfl
  | .cons item rest => by
    rw [maskItems, maskItems, mask_eq_of_same item, maskItems_eq_of_same rest]

theorem maskFields_eq_of_same {as bs : List (String × Json)} :
    SameFields as bs → maskFields as = maskFields bs
  | .nil => rfl
  | .plain shown value rest => by
    rw [maskFields, maskFields, (isSensitive_eq_false_iff _).mpr shown, mask_eq_of_same value,
      maskFields_eq_of_same rest]
    rfl
  | .secret hidden value rest => by
    rw [maskFields, maskFields, (isSensitive_iff _).mpr hidden, (hide_eq_hide_iff _ _).mpr value,
      maskFields_eq_of_same rest]
    rfl

end

mutual

theorem same_of_mask_eq : ∀ v w : Json, mask v = mask w → SameButSecrets v w
  | .null, w, same => by
    cases w with
    | null => exact .same .null
    | _ => cases same
  | .bool truth, w, same => by
    cases w with
    | bool _ =>
      cases same
      exact .same (.bool truth)
    | _ => cases same
  | .num value, w, same => by
    cases w with
    | num _ =>
      cases same
      exact .same (.num value)
    | _ => cases same
  | .str text, w, same => by
    cases w with
    | str _ =>
      cases same
      exact .same (.str text)
    | _ => cases same
  | .arr as, w, same => by
    cases w with
    | arr bs => exact .arr (sameItems_of_mask_eq as bs (Json.arr.inj same))
    | _ => cases same
  | .obj as, w, same => by
    cases w with
    | obj bs => exact .obj (sameFields_of_mask_eq as bs (Json.obj.inj same))
    | _ => cases same

theorem sameItems_of_mask_eq : ∀ as bs : List Json, maskItems as = maskItems bs → SameItems as bs
  | [], [], _ => .nil
  | [], _ :: _, same => nomatch same
  | _ :: _, [], same => nomatch same
  | v :: as, w :: bs, same => by
    obtain ⟨item, rest⟩ := List.cons.inj same
    exact .cons (same_of_mask_eq v w item) (sameItems_of_mask_eq as bs rest)

theorem sameFields_of_mask_eq :
    ∀ as bs : List (String × Json), maskFields as = maskFields bs → SameFields as bs
  | [], [], _ => .nil
  | [], _ :: _, same => nomatch same
  | _ :: _, [], same => nomatch same
  | (name, v) :: as, (other, w) :: bs, same => by
    obtain ⟨field, rest⟩ := List.cons.inj same
    obtain ⟨rfl, value⟩ := Prod.mk.inj field
    have later := sameFields_of_mask_eq as bs rest
    by_cases hidden : NamesSecret name
    · simp only [(isSensitive_iff name).mpr hidden, if_true] at value
      exact .secret hidden ((hide_eq_hide_iff v w).mp value) later
    · simp only [(isSensitive_eq_false_iff name).mpr hidden, Bool.false_eq_true, if_false] at value
      exact .plain hidden (same_of_mask_eq v w value) later

end

end TwoRuns

/-- Masking is complete and touches nothing else. What is not below a sensitive key keeps its place
and its outline, the value of a sensitive key is covered, and two documents look the same exactly
where they are the same up to secrets. -/
theorem masking_takes_secrets_alone (v : Json) :
    (∀ path, IsOpen path →
      ((mask v).at? path).map Json.outline = (v.at? path).map Json.outline) ∧
    (∀ path name secret, IsOpen path → NamesSecret name →
      v.at? (path ++ [.member name]) = some secret →
      ∃ shown, (mask v).at? (path ++ [.member name]) = some shown ∧ Covers secret shown) ∧
    ∀ w, mask v = mask w ↔ SameButSecrets v w := by
  refine ⟨fun path shown => ?_, fun path name secret shown hidden found => ?_,
    fun w => ⟨same_of_mask_eq v w, mask_eq_of_same⟩⟩
  · rw [at?_mask shown, Option.map_map]
    cases v.at? path with
    | none => rfl
    | some inner => exact congrArg some (outline_mask inner)
  · refine ⟨hide secret, ?_, covers_hide secret⟩
    rw [at?_mask_member shown hidden, found]
    rfl

/-- A service with an object and a text for its secrets, and a placeholder and a null in place of
two more. -/
def service (apiKey password : Json) : Json :=
  .obj [("hosts", .arr [.obj [("name", .str "db"), ("apiKey", apiKey)]]), ("DB_Password", password),
    ("callbackURL", .str "$\x7bCALLBACK\x7d"), ("token", .null)]

/-- An array of numbers vanishes below a key as a text does, and a number as an object. -/
theorem masking_takes_secrets_alone_service :
    ((mask (service (.arr [.nat 7]) (.str "hunter2"))).at? [.member "hosts", .item 0]).map
        Json.outline = some (.object ["name", "apiKey"]) ∧
    (∃ shown, (mask (service (.arr [.nat 7]) (.str "hunter2"))).at?
        ([.member "hosts", .item 0] ++ [.member "apiKey"]) = some shown ∧
      Covers (.arr [.nat 7]) shown) ∧
    mask (service (.arr [.nat 7]) (.str "hunter2")) = mask (service (.str "k") (.nat 1)) := by
  obtain ⟨outlines, covered, alike⟩ :=
    masking_takes_secrets_alone (service (.arr [.nat 7]) (.str "hunter2"))
  have hosts : IsOpen [.member "hosts", .item 0] := by decide +kernel
  refine ⟨(outlines _ hosts).trans (by decide +kernel),
    covered _ "apiKey" _ hosts (by decide +kernel) (by decide +kernel), (alike _).mpr (.obj ?_)⟩
  have entry : SameFields [("name", .str "db"), ("apiKey", .arr [.nat 7])]
      [("name", .str "db"), ("apiKey", .str "k")] :=
    .plain (by decide +kernel) (.same _)
      (.secret (by decide +kernel) (.inr ⟨trivial, by decide +kernel, by decide +kernel⟩) .nil)
  have password : IsSecret (.str "hunter2") := ⟨by decide +kernel, by decide +kernel⟩
  exact .plain (by decide +kernel) (.arr (.cons (.obj entry) .nil))
    (.secret (by decide +kernel) (.inr ⟨password, trivial⟩)
      (.secret (by decide +kernel) (.inl rfl) (.secret (by decide +kernel) (.inl rfl) .nil)))

end BulkActions.Settings
