import BulkActions.Proofs.Json.Distinct
import BulkActions.Proofs.Path.Written

/-! Suggested paths find what they were suggested for: the machine follows a way step by step, and a
way leads to one value until it takes every item. -/

namespace BulkActions.Path

namespace Step

/-- The nodes a step goes on to. -/
def reach (nodes : List Node) : Step → List Node
  | .member name => Frame.named [name] nodes
  | .first => Frame.indexed (Float.ofInt 0) nodes
  | .every => Frame.childrenOf nodes

def instructions : Step → List Instruction
  | .member name =>
    if isName name.toList then [.child, .key name]
    else [.openSubscript, .key name, .closeSubscript]
  | .first => [.openSubscript, .number (Float.ofInt 0), .closeSubscript]
  | .every => [.openSubscript, .all, .closeSubscript]

theorem instructions_extend (step : Step) (base : Expr) :
    (step.extend base).instructions = base.instructions ++ step.instructions := by
  cases step with
  | member name =>
    by_cases bare : isName name.toList = true <;>
      simp [extend, instructions, bare, Expr.instructions]
  | first => simp [extend, instructions, Expr.instructions]
  | every => simp [extend, instructions, Expr.instructions]

end Step

theorem instructions_foldl_extend (way : List Step) (base : Expr) :
    (way.foldl Step.extend base).instructions =
      base.instructions ++ way.flatMap Step.instructions := by
  induction way generalizing base with
  | nil => simp
  | cons step rest ih => simp [ih, step.instructions_extend]

namespace Machine

/-- The machine outside of every filter, at these nodes. -/
def standing (nodes : List Node) : Machine := ⟨⟨some nodes, [], []⟩, none⟩

theorem runAll_append (document : Json) (m : Machine) (earlier later : List Instruction) :
    m.runAll document (earlier ++ later) =
      (m.runAll document earlier).bind fun m => m.runAll document later := by
  induction earlier generalizing m with
  | nil => rfl
  | cons i rest ih =>
    simp only [List.cons_append, runAll]
    cases m.step document i with
    | none => rfl
    | some next => exact ih next

theorem stepTo_standing (nodes : List Node) (pending : List Pending)
    (g : List Node → List Node) :
    (Frame.mk (some nodes) pending []).stepTo g = ⟨some (g nodes), pending, []⟩ := by
  by_cases empty : (g nodes).isEmpty = true <;> simp [Frame.stepTo, empty, Frame.dropOperand]

/-- Whatever a step leads to, it leaves nothing open. -/
theorem runAll_step (document : Json) (step : Step) (nodes : List Node) :
    (standing nodes).runAll document step.instructions = some (standing (step.reach nodes)) := by
  cases step with
  | member name =>
    by_cases bare : isName name.toList = true
    · simp [Step.instructions, bare, runAll, Machine.step, settle, standing, Frame.run,
        Frame.applyKey, Frame.dropPending, stepTo_standing, Step.reach]
    · simp [Step.instructions, bare, runAll, Machine.step, settle, standing, Frame.run,
        Frame.applyKey, Frame.push, Frame.closeSubscript, Frame.resolveOperand, Frame.popTerm,
        Frame.dropPending, stepTo_standing, Step.reach]
  | first =>
    simp [Step.instructions, runAll, Machine.step, settle, standing, Frame.run, Frame.push,
      Frame.closeSubscript, Frame.resolveOperand, Frame.popTerm, Frame.dropPending,
      stepTo_standing, Step.reach]
  | every =>
    simp [Step.instructions, runAll, Machine.step, settle, standing, Frame.run, Frame.applyAll,
      Frame.mapCurrent, Frame.closeSubscript, Frame.resolveOperand, Frame.popTerm,
      Frame.dropPending, Step.reach]

theorem runAll_way (document : Json) (way : List Step) (nodes : List Node) :
    (standing nodes).runAll document (way.flatMap Step.instructions) =
      some (standing (way.foldl Step.reach nodes)) := by
  induction way generalizing nodes with
  | nil => rfl
  | cons step rest ih =>
    rw [List.flatMap_cons, runAll_append, runAll_step, Option.bind_some, ih, List.foldl_cons]

end Machine

/-- A way selects what its steps lead to from the document. -/
theorem select_path (document : Json) {way : List Step}
    (addressable : ∀ step ∈ way, step.Addressable) :
    select document ("$" ++ textOf way) =
      .ok ((way.foldl Step.reach [Node.root document]).map (·.value)) := by
  have begun : Machine.start.step document .root =
      some (Machine.standing [Node.root document]) := rfl
  have ran : (way.foldl Step.extend .root).select? document =
      some (way.foldl Step.reach [Node.root document]) := by
    simp only [Expr.select?, instructions_foldl_extend, Expr.instructions, List.singleton_append,
      Machine.runAll, begun, Machine.runAll_way]
    rfl
  simp only [select, expression?_path addressable, ran]

/-! What a step leads to from one value. -/

theorem memberFrom_of_mem {fields : List (String × Json)} (distinct : (Assoc.keys fields).Nodup)
    {name : String} {v : Json} (present : (name, v) ∈ fields) (place : List Nat) (start : Nat) :
    ∃ i, Node.memberFrom place name start fields = some ⟨i :: place, v⟩ := by
  induction fields generalizing start with
  | nil => cases present
  | cons binding rest ih =>
    obtain ⟨other, w⟩ := binding
    obtain ⟨fresh, later⟩ := List.nodup_cons.mp distinct
    rcases List.mem_cons.mp present with same | tail
    · cases same
      exact ⟨start, by simp [Node.memberFrom]⟩
    · have differs : other ≠ name := by
        rintro rfl
        exact fresh (List.mem_map.mpr ⟨_, tail, rfl⟩)
      obtain ⟨i, found⟩ := ih later tail (start + 1)
      exact ⟨i, by simpa [Node.memberFrom, differs] using found⟩

theorem reach_member {fields : List (String × Json)} (distinct : (Assoc.keys fields).Nodup)
    {name : String} {v : Json} (present : (name, v) ∈ fields) (place : List Nat) :
    ∃ below, Step.reach [⟨place, .obj fields⟩] (.member name) = [⟨below, v⟩] := by
  obtain ⟨i, found⟩ := memberFrom_of_mem distinct present place 0
  exact ⟨i :: place, by simp [Step.reach, Frame.named, Node.member?, found]⟩

theorem indexOf_zero : Frame.indexOf (Float.ofInt 0) = 0 := by decide

theorem reach_first (place : List Nat) (v : Json) (rest : List Json) :
    Step.reach [⟨place, .arr (v :: rest)⟩] .first = [⟨0 :: place, v⟩] := by
  simp [Step.reach, Frame.indexed, Node.isArray, indexOf_zero, Node.item?, Node.items,
    Node.numbered, Node.resolve]

theorem reach_first_nil (place : List Nat) : Step.reach [⟨place, .arr []⟩] .first = [] := by
  simp [Step.reach, Frame.indexed, Node.isArray, Node.item?, Node.items, Node.numbered]

theorem map_value_numbered (place : List Nat) (start : Nat) (items : List Json) :
    (Node.numbered place start items).map (·.value) = items := by
  induction items generalizing start with
  | nil => rfl
  | cons v rest ih => simp [Node.numbered, ih]

theorem reach_every (place : List Nat) (items : List Json) :
    (Step.reach [⟨place, .arr items⟩] .every).map (·.value) = items := by
  simp [Step.reach, Frame.childrenOf, Node.children, map_value_numbered]

namespace Points

variable {v : Json} {way : List Step} {target : Match}

theorem addressable (points : Points v way target) : ∀ step ∈ way, step.Addressable := by
  induction points with
  | member _ stepped => exact List.forall_mem_singleton.mpr stepped
  | belowMember _ stepped _ ih => exact List.forall_mem_cons.mpr ⟨stepped, ih⟩
  | belowFirst _ _ ih => exact List.forall_mem_cons.mpr ⟨trivial, ih⟩
  | first | only | every | noFirst | noItem => exact List.forall_mem_singleton.mpr trivial

/-- A way leads to the values that make up what it points at. -/
theorem ofSelection (points : Points v way target) (distinct : v.distinctKeys = true)
    (place : List Nat) :
    Match.ofSelection ((way.foldl Step.reach [⟨place, v⟩]).map (·.value)) = target := by
  induction points generalizing place with
  | member present _ =>
    obtain ⟨below, reached⟩ := reach_member (Json.nodup_keys distinct) present place
    simp [reached, Match.ofSelection]
  | first v rest => simp [reach_first, Match.ofSelection]
  | only v => simp [reach_every, Match.ofSelection]
  | every v w rest => simp [reach_every, Match.ofSelection]
  | noFirst => simp [reach_first_nil, Match.ofSelection]
  | noItem => simp [reach_every, Match.ofSelection]
  | belowMember present _ _ ih =>
    obtain ⟨below, reached⟩ := reach_member (Json.nodup_keys distinct) present place
    rw [List.foldl_cons, reached]
    exact ih (((Json.distinctKeys_obj _).mp distinct).2 _ present) below
  | belowFirst rest _ ih =>
    rw [List.foldl_cons, reach_first]
    exact ih ((Json.distinctKeys_arr _).mp distinct _ List.mem_cons_self) _

/-- Only objects and arrays have ways. -/
theorem documentOf_eq (points : Points v way target) : documentOf v = v := by
  cases points <;> rfl

end Points

/-- The paths suggested for a document are those of the ways through it. Each can be evaluated, and
finds what its way points at: a member or a first item itself, every item as the only one or as the
array of all, and nothing exactly at the items of an empty array. -/
theorem suggested_paths_find_their_values (document : Json)
    (distinct : document.distinctKeys = true) :
    (∀ path, path ∈ suggest "$" document ↔
      ∃ way target, Points document way target ∧ path = "$" ++ textOf way) ∧
    ∀ way target, Points document way target →
      test ("$" ++ textOf way) document = .ok () ∧
      evaluate document ("$" ++ textOf way) = .ok target := by
  refine ⟨fun path => mem_suggest_iff "$" path document, fun way target points => ?_⟩
  have selected := select_path document points.addressable
  have found := points.ofSelection distinct []
  constructor
  · simp only [test, points.documentOf_eq, selected]
  · simp only [evaluate, points.documentOf_eq, selected]
    rw [← found]
    rfl

/-- A name with a blank, one with a quote, one with a dollar sign, and an array between them. -/
def sampleDocument : Json :=
  .obj [("user id", .obj [("it's", .arr [.obj [("$.a", .null)], .bool true])]), ("tags", .arr [])]

def sampleWay : List Step := [.member "user id", .member "it's", .first, .member "$.a"]

theorem points_sampleWay : Points sampleDocument sampleWay (.found .null) :=
  .belowMember (.head _) rfl (.belowMember (.head _) rfl (.belowFirst _ (.member (.head _) rfl)))

theorem suggested_paths_find_their_values_quoted :
    sampleDocument.distinctKeys = true ∧
    "$" ++ textOf sampleWay = "$['user id'][\"it's\"][0]['$.a']" ∧
    "$" ++ textOf sampleWay ∈ suggest "$" sampleDocument ∧
    test ("$" ++ textOf sampleWay) sampleDocument = .ok () ∧
    evaluate sampleDocument ("$" ++ textOf sampleWay) = .ok (.found .null) :=
  have whole := suggested_paths_find_their_values sampleDocument (by decide)
  ⟨by decide, by decide, (whole.1 _).mpr ⟨_, _, points_sampleWay, rfl⟩,
    whole.2 _ _ points_sampleWay⟩

end BulkActions.Path
