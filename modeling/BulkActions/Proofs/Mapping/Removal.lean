import BulkActions.Json.Printer
import BulkActions.Proofs.Mapping.Entries

/-! The order in which a removal leaves the rest. Removing a member moves the last one of its object
into its place, so the order is kept where at most one member stood behind it; every other object
keeps its order. -/

namespace BulkActions.Assoc

variable {κ α : Type} [DecidableEq κ]

/-- The bindings behind the one with this key. -/
def behind : Assoc κ α → κ → Assoc κ α
  | [], _ => []
  | (other, _) :: rest, key => if other = key then rest else behind rest key

theorem filter_ne_of_not_mem {names : List κ} {key : κ} (fresh : key ∉ names) :
    names.filter (· ≠ key) = names := by
  refine List.filter_eq_self.mpr fun name member => ?_
  have differs : name ≠ key := fun same => fresh (same ▸ member)
  simpa using differs

omit [DecidableEq κ] in
theorem cons_eq_append_singleton_iff {names : List κ} {name : κ} (fresh : name ∉ names) :
    name :: names = names ++ [name] ↔ names = [] := by
  cases names with
  | nil => simp
  | cons first rest =>
    have differs : name ≠ first := fun same => fresh (same ▸ List.mem_cons_self)
    simp [differs]

/-- The last binding takes the place of the removed one. -/
theorem erase_of_last {front between : Assoc κ α} {key : κ} (fresh : key ∉ front.keys) (value : α)
    (last : κ × α) :
    (front ++ (key, value) :: (between ++ [last])).erase key = front ++ last :: between := by
  induction front with
  | nil => simp [erase]
  | cons binding rest ih =>
    simp only [keys, List.map_cons, List.mem_cons, not_or] at fresh
    simp only [List.cons_append, erase, if_neg (Ne.symm fresh.1), ih fresh.2]

/-- The order of the rest is kept exactly if at most one binding stood behind the removed one. -/
theorem keys_erase_eq_filter_iff {bindings : Assoc κ α} (distinct : (keys bindings).Nodup)
    (key : κ) :
    (bindings.erase key).keys = bindings.keys.filter (· ≠ key) ↔
      (bindings.behind key).length ≤ 1 := by
  induction bindings with
  | nil => simp [erase, keys, behind]
  | cons binding rest ih =>
    obtain ⟨other, value⟩ := binding
    obtain ⟨fresh, later⟩ := List.nodup_cons.mp distinct
    by_cases same : other = key
    · subst same
      have kept : (keys ((other, value) :: rest)).filter (· ≠ other) = keys rest := by
        simpa [keys] using filter_ne_of_not_mem fresh
      rw [kept]
      cases ending : rest.getLast? with
      | none =>
        obtain rfl := List.getLast?_eq_none_iff.mp ending
        simp [erase, behind, keys]
      | some last =>
        obtain ⟨front, rfl⟩ := List.getLast?_eq_some_iff.mp ending
        have lastFresh : last.1 ∉ keys front := by
          change (List.map Prod.fst (front ++ [last])).Nodup at later
          rw [List.map_append] at later
          exact fun member => (List.nodup_append.mp later).2.2 _ member _ (by simp) rfl
        simpa [erase, behind, keys] using cons_eq_append_singleton_iff lastFresh
    · simpa [erase, behind, keys, same] using ih later

/-- The names of the rest stay, in whatever order. -/
theorem keys_erase_perm {bindings : Assoc κ α} (distinct : (keys bindings).Nodup) (key : κ) :
    (bindings.erase key).keys.Perm (bindings.keys.filter (· ≠ key)) := by
  refine (List.perm_ext_iff_of_nodup (nodup_keys_erase distinct key) (distinct.filter _)).mpr ?_
  intro name
  rw [mem_keys_iff (nodup_keys_erase distinct key), List.mem_filter, mem_keys_iff distinct,
    find?_erase distinct]
  by_cases same : name = key <;> simp [same]

end BulkActions.Assoc

namespace BulkActions.Mapping

section Levels

variable {fields members : Assoc String Json} {name : String} {rest p path : List String}

theorem exists_fields_of_lookupAt {v : Json} (found : lookupAt p v = some (.obj members)) :
    ∃ fields, v = .obj fields := by
  cases p with
  | nil => exact ⟨members, Option.some.inj found⟩
  | cons name more =>
    cases v with
    | obj fields => exact ⟨fields, rfl⟩
    | _ => cases found

theorem distinctKeys_lookupAt {v : Json} (distinct : v.distinctKeys = true)
    (found : lookupAt p v = some (.obj members)) : (Json.obj members).distinctKeys = true := by
  induction p generalizing v with
  | nil =>
    cases found
    exact distinct
  | cons name more ih =>
    obtain ⟨fields, rfl⟩ := exists_fields_of_lookupAt found
    rw [lookupAt_obj] at found
    obtain ⟨w, present, below⟩ := Option.bind_eq_some_iff.mp found
    exact ih (Json.distinctKeys_find? distinct present) below

theorem unsetAt_cons (deeper : rest ≠ []) (fields : Assoc String Json) (name : String) :
    unsetAt (name :: rest) fields =
      match fields.find? name with
      | some (.obj inner) => fields.insert name (.obj (unsetAt rest inner))
      | _ => fields := by
  obtain ⟨next, more, rfl⟩ := List.exists_cons_of_ne_nil deeper
  rfl

/-- An object on the way keeps its members in order. -/
theorem keys_unsetAt (deeper : rest ≠ []) (fields : Assoc String Json) (name : String) :
    (unsetAt (name :: rest) fields).keys = fields.keys := by
  rw [unsetAt_cons deeper]
  split
  · rename_i inner found
    have present : name ∈ fields.keys := List.mem_map.mpr ⟨_, Assoc.mem_of_find? found, rfl⟩
    rw [Assoc.keys_insert, if_pos present]
  · rfl

/-- In an object on the way the removal is that of the segments that are left. -/
theorem lookupAt_unsetAt_above (found : lookupAt p (.obj fields) = some (.obj members))
    (name : String) (rest : List String) :
    lookupAt p (.obj (unsetAt (p ++ name :: rest) fields)) =
      some (.obj (unsetAt (name :: rest) members)) := by
  induction p generalizing fields with
  | nil =>
    cases found
    rfl
  | cons other more ih =>
    rw [lookupAt_obj] at found
    obtain ⟨v, present, below⟩ := Option.bind_eq_some_iff.mp found
    obtain ⟨inner, rfl⟩ := exists_fields_of_lookupAt below
    rw [List.cons_append, unsetAt_cons (by simp), present, lookupAt_obj, Assoc.find?_insert,
      if_pos rfl, Option.bind_some]
    exact ih below

theorem exists_last (named : path ≠ []) : ∃ above name, path = above ++ [name] :=
  ⟨path.dropLast, path.getLast named, (List.dropLast_concat_getLast named).symm⟩

/-- A removal at the level of one object: the member goes where it stands in this object, and
otherwise the object keeps its members in order. -/
theorem level_unsetAt (outside : ¬ path <+: p)
    (found : lookupAt p (.obj fields) = some (.obj members))
    (distinct : (Json.obj fields).distinctKeys = true) :
    (∃ name, path = p ++ [name] ∧
      lookupAt p (.obj (unsetAt path fields)) = some (.obj (members.erase name))) ∨
    (∀ name, path ≠ p ++ [name]) ∧ ∃ left : Assoc String Json,
      lookupAt p (.obj (unsetAt path fields)) = some (.obj left) ∧ left.keys = members.keys := by
  by_cases above : p <+: path
  · obtain ⟨tail, rfl⟩ := above
    cases tail with
    | nil => simp at outside
    | cons name rest =>
      rw [lookupAt_unsetAt_above found]
      cases rest with
      | nil => exact .inl ⟨name, rfl, rfl⟩
      | cons next more =>
        have deeper : next :: more ≠ [] := List.cons_ne_nil next more
        exact .inr ⟨by simp, _, rfl, keys_unsetAt deeper members name⟩
  · refine .inr ⟨?_, members, ?_, rfl⟩
    · rintro name rfl
      exact above (List.prefix_append p [name])
    · rw [lookupAt_unsetAt_of_apart ⟨above, outside⟩ distinct, found]

end Levels

/-- In every object outside the segments there are the names of before, without the last one of the
segments, in an order that compares like this to theirs. -/
def Keeps (order : List String → List String → Prop) (path : List String)
    (before after : Assoc String Json) : Prop :=
  ∀ (p : List String) (members : Assoc String Json), ¬ path <+: p →
    lookupAt p (.obj before) = some (.obj members) →
    ∃ left : Assoc String Json, lookupAt p (.obj after) = some (.obj left) ∧
      order left.keys (members.keys.filter fun name => path ≠ p ++ [name])

/-- The members behind the one at the segments, in its own object. -/
def followers (path : List String) (fields : Assoc String Json) : Assoc String Json :=
  (membersOf (lookupAt path.dropLast (.obj fields))).behind (path.getLastD "")

/-- What a removal does. The value at the segments goes and values apart from it stay. No object
gains or loses any other member. The order of members changes in no object but the one of the
removed member, where the last one moves into its place. -/
structure Removal (path : List String) (before after : Assoc String Json) : Prop where
  gone : lookupAt path (.obj after) = none
  values : ∀ p, Apart p path → lookupAt p (.obj after) = lookupAt p (.obj before)
  members : Keeps List.Perm path before after
  elsewhere : ∀ (p : List String) (members : Assoc String Json), ¬ path <+: p →
    (∀ name, path ≠ p ++ [name]) → lookupAt p (.obj before) = some (.obj members) →
    ∃ left : Assoc String Json, lookupAt p (.obj after) = some (.obj left) ∧
      left.keys = members.keys
  moved : ∀ p name front v between last, path = p ++ [name] →
    lookupAt p (.obj before) = some (.obj (front ++ (name, v) :: (between ++ [last]))) →
    lookupAt p (.obj after) = some (.obj (front ++ last :: between))

section Removing

variable {fields : Assoc String Json} (distinct : (Json.obj fields).distinctKeys = true)

include distinct

/-- Only the object of the removed member decides whether an order is kept. -/
theorem keeps_unsetAt_iff {order : List String → List String → Prop}
    (refl : ∀ names, order names names) (above : List String) (name : String) :
    Keeps order (above ++ [name]) fields (unsetAt (above ++ [name]) fields) ↔
      ∀ members : Assoc String Json, lookupAt above (.obj fields) = some (.obj members) →
        order (members.erase name).keys (members.keys.filter (· ≠ name)) := by
  constructor
  · intro keeps members found
    have outside : ¬ above ++ [name] <+: above := by
      intro within
      have longer := within.length_le
      rw [List.length_append] at longer
      exact Nat.not_succ_le_self _ longer
    obtain ⟨left, reached, kept⟩ := keeps above members outside found
    have removed := lookupAt_unsetAt_above found name []
    cases removed.symm.trans reached
    simpa [unsetAt, eq_comm] using kept
  · intro own p members outside found
    rcases level_unsetAt outside found distinct with
      ⟨last, same, reached⟩ | ⟨other, left, reached, kept⟩
    · obtain ⟨rfl, last⟩ := List.append_inj' same rfl
      cases last
      exact ⟨_, reached, by simpa [eq_comm] using own members found⟩
    · refine ⟨left, reached, ?_⟩
      have whole :
          (members.keys.filter fun inner => above ++ [name] ≠ p ++ [inner]) = left.keys := by
        rw [kept]
        exact List.filter_eq_self.mpr fun inner _ => decide_eq_true (other inner)
      rw [whole]
      exact refl _

theorem removal_unsetAt {path : List String} (named : path ≠ []) :
    Removal path fields (unsetAt path fields) where
  gone := lookupAt_unsetAt path named distinct
  values p apart := lookupAt_unsetAt_of_apart apart distinct
  members := by
    obtain ⟨above, name, rfl⟩ := exists_last named
    refine (keeps_unsetAt_iff distinct List.Perm.refl above name).mpr fun members found => ?_
    exact Assoc.keys_erase_perm (Json.nodup_keys (distinctKeys_lookupAt distinct found)) name
  elsewhere p members outside other found := by
    rcases level_unsetAt outside found distinct with ⟨name, same, _⟩ | ⟨_, left, reached, kept⟩
    · exact absurd same (other name)
    · exact ⟨left, reached, kept⟩
  moved p name front v between last same found := by
    subst same
    have nodup := Json.nodup_keys (distinctKeys_lookupAt distinct found)
    have fresh : name ∉ Assoc.keys front := by
      intro member
      rw [Assoc.keys, List.map_append] at nodup
      exact (List.nodup_append.mp nodup).2.2 _ member _ List.mem_cons_self rfl
    rw [lookupAt_unsetAt_above found, unsetAt, Assoc.erase_of_last fresh]

theorem keeps_order_unsetAt_iff {path : List String} (named : path ≠ []) :
    Keeps Eq path fields (unsetAt path fields) ↔ (followers path fields).length ≤ 1 := by
  obtain ⟨above, name, rfl⟩ := exists_last named
  have own : followers (above ++ [name]) fields =
      (membersOf (lookupAt above (.obj fields))).behind name := by
    simp [followers]
  rw [keeps_unsetAt_iff distinct (fun _ => rfl), own]
  constructor
  · intro kept
    cases found : lookupAt above (.obj fields) with
    | none => simp [membersOf, Assoc.behind]
    | some v =>
      cases v with
      | obj members =>
        have nodup := Json.nodup_keys (distinctKeys_lookupAt distinct found)
        exact (Assoc.keys_erase_eq_filter_iff nodup name).mp (kept members found)
      | _ => simp [membersOf, Assoc.behind]
  · intro few members found
    have nodup := Json.nodup_keys (distinctKeys_lookupAt distinct found)
    rw [found] at few
    exact (Assoc.keys_erase_eq_filter_iff nodup name).mpr few

/-- A removal leaves the rest as it was but for the order in one object: there the last member moves
into the place of the removed one. So the order is kept at every level exactly if at most one member
stood behind. An entry of a mapping whose path has no match removes in this way what its key holds,
and the entries after it go on from what is left. -/
theorem removal_keeps_order_iff [Path.Evaluator] {key : String} {after : Assoc String Json}
    (removed : (unsetValue key).on fields = (after, .ok ())) :
    Removal (segments key) fields after ∧
    (Keeps Eq (segments key) fields after ↔ (followers (segments key) fields).length ≤ 1) ∧
    ∀ record e rest, e.key = key → e.Resolves record none →
      (applyEntries record fields (e :: rest)).outcome =
        (applyEntries record after rest).outcome := by
  obtain ⟨path, safe, same⟩ :
      ∃ path, checkSegments key = .ok path ∧ unsetAt path fields = after := by
    change (assign key none).on fields = (after, .ok ()) at removed
    cases safe : checkSegments key with
    | error refusal =>
      rw [assign_of_denied safe] at removed
      cases congrArg Prod.snd removed
    | ok path =>
      rw [assign_of_safe safe] at removed
      exact ⟨path, rfl, congrArg Prod.fst removed⟩
  obtain rfl := checkSegments_eq_ok safe
  subst same
  have named := segments_ne_nil key
  refine ⟨removal_unsetAt distinct named, keeps_order_unsetAt_iff distinct named, ?_⟩
  intro record e rest own missed
  have edit : e.edit? record = some ⟨segments key, none⟩ := by
    obtain ⟨value, shape, answer⟩ := missed
    exact (Entry.edit?_eq_some_iff _).mpr ⟨⟨by simp [shape], own ▸ safe⟩, value, shape, answer⟩
  have goesOn := (applyEntries_of_goes_on record fields (Entry.not_fails_of_resolves missed) rest).1
  rw [goesOn, Entry.edited, edit]
  rfl

end Removing

/-- An object that holds three members on a lower level, beside another one. -/
def layeredObject : Assoc String Json :=
  [("m", .obj [("a", .str "1"), ("b", .str "2"), ("c", .str "3")]), ("n", .null)]

/-- The last but one member goes, and the order stays. -/
theorem removal_keeps_order_iff_layered :
    (Json.obj layeredObject).distinctKeys = true ∧
    (unsetValue "m.b").on layeredObject =
      ([("m", .obj [("a", .str "1"), ("c", .str "3")]), ("n", .null)], .ok ()) ∧
    Keeps Eq (segments "m.b") layeredObject
      [("m", .obj [("a", .str "1"), ("c", .str "3")]), ("n", .null)] :=
  have distinct : (Json.obj layeredObject).distinctKeys = true := by decide
  have removed : (unsetValue "m.b").on layeredObject =
      ([("m", .obj [("a", .str "1"), ("c", .str "3")]), ("n", .null)], .ok ()) := rfl
  ⟨distinct, removed, (removal_keeps_order_iff distinct removed).2.1.mpr (by decide)⟩

/-- Three literals, and then an entry that misses at the key of the first. -/
def missingEntries : List Entry :=
  [⟨"a", .input, some "1"⟩, ⟨"b", .input, some "2"⟩, ⟨"c", .input, some "3"⟩,
    ⟨"a", .input, some "$.none"⟩]

/-- The first of three members goes, and the other two change places, in the object and in its
text. -/
theorem removal_reverses_the_rest :
    (unsetValue "a").on [("a", .str "1"), ("b", .str "2"), ("c", .str "3")] =
      ([("c", .str "3"), ("b", .str "2")], .ok ()) ∧
    ¬ Keeps Eq (segments "a") [("a", .str "1"), ("b", .str "2"), ("c", .str "3")]
      [("c", .str "3"), ("b", .str "2")] ∧
    (applyEntries ⟨.obj [], .null, .null⟩ [] missingEntries).outcome =
      .ok [("c", .str "3"), ("b", .str "2")] ∧
    (Json.obj [("c", .str "3"), ("b", .str "2")]).compact = "\x7b\"c\":\"3\",\"b\":\"2\"\x7d" := by
  refine ⟨rfl, ?_, rfl, by decide⟩
  intro kept
  obtain ⟨left, reached, same⟩ := kept [] _ (by decide) rfl
  cases reached
  exact absurd same (by decide)

end BulkActions.Mapping
