import BulkActions.Path.Evaluate
import BulkActions.Path.Suggest

/-! The ways through a sample document and what each of them points at. The paths suggested for a
document are exactly the texts of its ways. -/

namespace BulkActions.Path

/-- A step of a way: to a member, to the first item or to every item. -/
inductive Step where
  | member (name : String)
  | first
  | every
  deriving DecidableEq

def Step.text : Step → String
  | .member name => (memberStep? name).getD ""
  | .first => "[0]"
  | .every => "[*]"

def textOf (way : List Step) : String := way.foldr (fun step rest => step.text ++ rest) ""

@[simp] theorem textOf_nil : textOf [] = "" := rfl

@[simp] theorem textOf_cons (step : Step) (way : List Step) :
    textOf (step :: way) = step.text ++ textOf way := rfl

/-- What the ways from a value point at: members and first items are themselves, every item is the
only one or all of them, and in an empty array there is nothing to point at. A member without a step
is on no way. -/
inductive Points : Json → List Step → Match → Prop where
  | member {fields : List (String × Json)} {name : String} {v : Json} (present : (name, v) ∈ fields)
      (addressable : (memberStep? name).isSome) :
      Points (.obj fields) [.member name] (.found v)
  | first (v : Json) (rest : List Json) : Points (.arr (v :: rest)) [.first] (.found v)
  | only (v : Json) : Points (.arr [v]) [.every] (.found v)
  | every (v w : Json) (rest : List Json) :
      Points (.arr (v :: w :: rest)) [.every] (.found (.arr (v :: w :: rest)))
  | noFirst : Points (.arr []) [.first] .missing
  | noItem : Points (.arr []) [.every] .missing
  | belowMember {fields : List (String × Json)} {name : String} {v : Json} {way : List Step}
      {target : Match} (present : (name, v) ∈ fields) (addressable : (memberStep? name).isSome)
      (below : Points v way target) : Points (.obj fields) (.member name :: way) target
  | belowFirst {v : Json} (rest : List Json) {way : List Step} {target : Match}
      (below : Points v way target) : Points (.arr (v :: rest)) (.first :: way) target

/-- The path of a way from a value that is addressed by `base`. -/
def Leads (base : String) (v : Json) (path : String) : Prop :=
  ∃ way target, Points v way target ∧ path = base ++ textOf way

theorem leads_scalar {base path : String} {v : Json}
    (scalar : suggest base v = []) (noItems : ∀ items, v ≠ .arr items)
    (noFields : ∀ fields, v ≠ .obj fields) : path ∈ suggest base v ↔ Leads base v path := by
  rw [scalar]
  constructor
  · intro member
    cases member
  · rintro ⟨way, target, points, -⟩
    cases points <;> first | exact absurd rfl (noItems _) | exact absurd rfl (noFields _)

theorem leads_arr_nil {base path : String} :
    path ∈ suggest base (.arr []) ↔ Leads base (.arr []) path := by
  simp only [suggest, suggestFirst, List.mem_cons, List.not_mem_nil, or_false]
  constructor
  · rintro (first | every)
    · exact ⟨_, _, .noFirst, by simpa [Step.text] using first⟩
    · exact ⟨_, _, .noItem, by simpa [Step.text] using every⟩
  · rintro ⟨way, target, points, rfl⟩
    cases points <;> simp [Step.text]

theorem leads_arr_cons {base path : String} {v : Json} {rest : List Json}
    (below : path ∈ suggest (base ++ "[0]") v ↔ Leads (base ++ "[0]") v path) :
    path ∈ suggest base (.arr (v :: rest)) ↔ Leads base (.arr (v :: rest)) path := by
  simp only [suggest, suggestFirst, List.mem_cons, below]
  constructor
  · rintro (first | every | ⟨way, target, points, rfl⟩)
    · exact ⟨_, _, .first v rest, by simpa [Step.text] using first⟩
    · cases rest with
      | nil => exact ⟨_, _, .only v, by simpa [Step.text] using every⟩
      | cons w rest => exact ⟨_, _, .every v w rest, by simpa [Step.text] using every⟩
    · exact ⟨_, _, .belowFirst rest points, by simp [Step.text, String.append_assoc]⟩
  · rintro ⟨way, target, points, rfl⟩
    cases points with
    | first => simp [Step.text]
    | only => simp [Step.text]
    | every => simp [Step.text]
    | belowFirst _ points =>
      exact .inr (.inr ⟨_, _, points, by simp [Step.text, String.append_assoc]⟩)

/-- A way through an object begins at one of its members. -/
def LeadsThrough (base : String) (fields : List (String × Json)) (path : String) : Prop :=
  ∃ name v step, (name, v) ∈ fields ∧ memberStep? name = some step ∧
    (path = base ++ step ∨ Leads (base ++ step) v path)

theorem leadsThrough_iff {base path : String} {fields : List (String × Json)} :
    LeadsThrough base fields path ↔ Leads base (.obj fields) path := by
  constructor
  · rintro ⟨name, v, step, present, stepped, rfl | ⟨way, target, points, rfl⟩⟩
    · exact ⟨_, _, .member present (by simp [stepped]), by simp [Step.text, stepped]⟩
    · exact ⟨_, _, .belowMember present (by simp [stepped]) points,
        by simp [Step.text, stepped, String.append_assoc]⟩
  · rintro ⟨way, target, points, rfl⟩
    cases points with
    | member present addressable =>
      obtain ⟨step, stepped⟩ := Option.isSome_iff_exists.mp addressable
      exact ⟨_, _, step, present, stepped, .inl (by simp [Step.text, stepped])⟩
    | belowMember present addressable points =>
      obtain ⟨step, stepped⟩ := Option.isSome_iff_exists.mp addressable
      exact ⟨_, _, step, present, stepped,
        .inr ⟨_, _, points, by simp [Step.text, stepped, String.append_assoc]⟩⟩

mutual

/-- The suggested paths are those of the ways. -/
theorem mem_suggest_iff (base path : String) :
    ∀ v : Json, path ∈ suggest base v ↔ Leads base v path
  | .null => leads_scalar rfl (by simp) (by simp)
  | .bool _ => leads_scalar rfl (by simp) (by simp)
  | .num _ => leads_scalar rfl (by simp) (by simp)
  | .str _ => leads_scalar rfl (by simp) (by simp)
  | .arr [] => leads_arr_nil
  | .arr (v :: _) => leads_arr_cons (mem_suggest_iff (base ++ "[0]") path v)
  | .obj fields => by
    rw [suggest, mem_suggestFields_iff base path fields]
    exact leadsThrough_iff

theorem mem_suggestFields_iff (base path : String) :
    ∀ fields : List (String × Json), path ∈ suggestFields base fields ↔
      LeadsThrough base fields path
  | [] => by simp [suggestFields, LeadsThrough]
  | (name, v) :: rest => by
    have tail := mem_suggestFields_iff base path rest
    cases stepped : memberStep? name with
    | none =>
      rw [suggestFields, stepped, tail]
      constructor
      · rintro ⟨other, w, step, present, found, leads⟩
        exact ⟨other, w, step, List.mem_cons_of_mem _ present, found, leads⟩
      · rintro ⟨other, w, step, present, found, leads⟩
        rcases List.mem_cons.mp present with same | later
        · cases same
          rw [stepped] at found
          cases found
        · exact ⟨other, w, step, later, found, leads⟩
    | some step =>
      have below := mem_suggest_iff (base ++ step) path v
      simp only [suggestFields, stepped, List.cons_append, List.mem_cons, List.mem_append, below,
        tail]
      constructor
      · rintro (own | inside | ⟨other, w, step, present, found, leads⟩)
        · exact ⟨name, v, step, List.mem_cons_self, stepped, .inl own⟩
        · exact ⟨name, v, step, List.mem_cons_self, stepped, .inr inside⟩
        · exact ⟨other, w, step, List.mem_cons_of_mem _ present, found, leads⟩
      · rintro ⟨other, w, way, present, found, leads⟩
        rcases List.mem_cons.mp present with same | later
        · cases same
          cases stepped.symm.trans found
          rcases leads with own | inside
          · exact .inl own
          · exact .inr (.inl inside)
        · exact .inr (.inr ⟨other, w, way, later, found, leads⟩)

end

end BulkActions.Path
