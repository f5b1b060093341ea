import BulkActions.Path.Machine
import BulkActions.Proofs.Path.Part

/-! Frames that hold parts of one document alone. No instruction inside a frame brings in other
values, neither among the current nodes nor in an operand. -/

namespace BulkActions.Path

variable {document : Json}

/-- An operand with parts of the document alone. -/
def Term.Within (document : Json) : Term → Prop
  | .nodes owners _ reached =>
    (∀ mine, owners = some mine → Path.Within document mine) ∧ Path.Within document reached
  | _ => True

namespace Term

theorem within_unowned {nodes : List Node} (within : Path.Within document nodes)
    (sought : Option Sought) : (Term.nodes none sought nodes).Within document :=
  ⟨fun _ impossible => (nomatch impossible), within⟩

theorem within_owned {owners nodes : List Node} (own : Path.Within document owners)
    (within : Path.Within document nodes) (sought : Option Sought) :
    (Term.nodes (some owners) sought nodes).Within document :=
  ⟨fun _ same => Option.some.inj same ▸ own, within⟩

theorem within_ofNodes {nodes : List Node} (within : Path.Within document nodes) :
    (Term.ofNodes nodes).Within document := by
  have plain := within_unowned within none
  unfold ofNodes
  split
  · rename_i n
    cases n.value <;> first | exact plain | trivial
  · exact plain

end Term

theorem within_joinNodes (op : Operator) {left right : List Node}
    (first : Within document left) (second : Within document right) :
    Within document (joinNodes op left right) := by
  have pairs : ∀ pick : Node → Node → List Node, (∀ x y, pick x y ⊆ [x]) →
      Within document (left.flatMap fun x => right.flatMap (pick x)) := by
    intro pick own
    exact first.flatMap fun x part => .collect fun y _ => (Within.singleton part).of_subset (own x y)
  cases op with
  | eq | both | ne =>
    apply pairs
    intro x y
    split <;> simp
  | either => exact (first.append second).of_subset (Node.distinctValues_subset _)
  | lt | le | gt | ge => exact .nil

theorem within_ownersOf {owners : List Node} (found : List Node)
    (within : Within document owners) : Within document (ownersOf owners found) := by
  refine within.flatMap fun owner part => ?_
  split
  · refine .collect fun binding _ => .collect fun n _ => ?_
    split
    · exact .singleton part
    · exact .nil
  · exact .nil

theorem within_compareNodes (op : Operator) {owners : Option (List Node)} {sought : Option Sought}
    {reached : List Node} {other : Term}
    (left : (Term.nodes owners sought reached).Within document)
    (right : other.Within document) :
    (compareNodes op owners sought reached other).Within document := by
  obtain ⟨mine, within⟩ := left
  unfold compareNodes
  extract_lets found
  have kept : Within document found := by
    cases other with
    | nodes otherOwners _ others =>
      obtain ⟨theirs, others⟩ := right
      cases owners with
      | some mine' => exact within_joinNodes op (mine _ rfl) others
      | none =>
        cases otherOwners with
        | some theirs' => exact within_joinNodes op within (theirs _ rfl)
        | none => exact within_joinNodes op within others
    | text _ | number _ | truth _ =>
      exact within.of_subset List.filter_sublist.subset
  split
  · trivial
  · cases owners with
    | none => exact Term.within_unowned kept none
    | some owners =>
      have own := mine owners rfl
      dsimp only
      split
      · exact Term.within_owned (within_ownersOf found own) kept none
      · exact Term.within_owned own kept none

theorem within_compare (op : Operator) {left right : Term} (first : left.Within document)
    (second : right.Within document) : (compare op left right).Within document := by
  unfold compare
  split
  · exact within_compareNodes op first second
  · exact within_compareNodes op.flip second first
  · trivial

/-- A frame that holds parts of the document alone. -/
structure Frame.Within (document : Json) (f : Frame) : Prop where
  current : ∀ nodes, f.current = some nodes → Path.Within document nodes
  operands : ∀ t, some t ∈ f.operands → t.Within document

namespace Frame

section Steps

variable {f : Frame} (within : f.Within document)

include within

theorem within_current : Path.Within document (f.current.getD []) := by
  cases shape : f.current with
  | none => exact .nil
  | some nodes => exact within.current nodes shape

theorem within_operand {t : Option Term} (member : t ∈ f.operands) :
    (f.operand t).Within document := by
  cases t with
  | none => exact Term.within_unowned (within_current within) none
  | some t => exact within.operands t member

theorem within_pending (pending : List Pending) : Within document { f with pending := pending } :=
  ⟨within.current, within.operands⟩

theorem within_dropPending : f.dropPending.Within document := within_pending within _

theorem within_operands {operands : List (Option Term)}
    (each : ∀ t, some t ∈ operands → t.Within document) :
    Within document { f with operands := operands } :=
  ⟨within.current, each⟩

theorem within_select {nodes : List Node} (inside : Path.Within document nodes) :
    Within document { f with current := some nodes } :=
  ⟨fun _ same => Option.some.inj same ▸ inside, within.operands⟩

/-- Another operand on top of some of those that are there. -/
theorem within_onTop {top : Option Term} {rest : List (Option Term)}
    (own : ∀ t, top = some t → t.Within document) (kept : rest ⊆ f.operands) :
    Within document { f with operands := top :: rest } := by
  refine within_operands within fun t member => ?_
  rcases List.mem_cons.mp member with same | old
  · exact own t same.symm
  · exact within.operands t (kept old)

theorem within_dropOperand : f.dropOperand.Within document :=
  within_operands within fun t member => within.operands t (List.mem_of_mem_drop member)

theorem within_push {t : Term} (operand : t.Within document) : (f.push t).Within document :=
  within_onTop within (fun _ same => Option.some.inj same ▸ operand) (List.Subset.refl _)

theorem within_pushAbsent : Within document { f with operands := none :: f.operands } :=
  within_onTop within (fun _ impossible => (nomatch impossible)) (List.Subset.refl _)

theorem within_mapCurrent {g : List Node → List Node}
    (closed : ∀ nodes, Path.Within document nodes → Path.Within document (g nodes)) :
    (f.mapCurrent g).Within document := by
  refine ⟨fun nodes same => ?_, within.operands⟩
  obtain ⟨before, shape, rfl⟩ := Option.map_eq_some_iff.mp same
  exact closed before (within.current before shape)

theorem within_stepTo {g : List Node → List Node}
    (closed : ∀ nodes, Path.Within document nodes → Path.Within document (g nodes)) :
    (f.stepTo g).Within document := by
  unfold stepTo
  split
  · exact within
  · rename_i nodes shape
    have next := within_select within (closed nodes (within.current nodes shape))
    dsimp only
    split
    · exact within_dropOperand next
    · exact next

theorem within_popTerm : f.popTerm.2.Within document ∧
    ∀ t, f.popTerm.1 = some t → t.Within document := by
  unfold popTerm
  split
  · exact ⟨within, fun _ impossible => (nomatch impossible)⟩
  · rename_i top rest shape
    refine ⟨within_operands within fun t member => ?_, fun t same => ?_⟩
    · exact within.operands t (shape ▸ List.mem_cons_of_mem _ member)
    · exact within.operands t (shape ▸ same ▸ List.mem_cons_self)

end Steps

/-! The ways down from the current nodes. -/

variable {nodes : List Node} (within : Path.Within document nodes)

include within

theorem within_childrenOf : Path.Within document (childrenOf nodes) :=
  within.flatMap fun _ => Node.within_children

theorem within_below : Path.Within document (below nodes) :=
  within.flatMap fun _ => Node.within_walk fun _ => Node.within_children

theorem within_named (names : List String) : Path.Within document (named names nodes) :=
  within.flatMap fun _ part => .filterMap fun _ _ => Node.part_member? part

theorem within_namedBelow (name : String) : Path.Within document (namedBelow name nodes) :=
  within.flatMap fun _ => Node.within_walk fun _ part => .toList fun _ => Node.part_member? part

theorem within_indexed (x : Float) : Path.Within document (indexed x nodes) := by
  refine within.flatMap fun n part => ?_
  split
  · exact .toList fun _ => Node.part_item? part
  · intro m member
    obtain ⟨child, inside, found⟩ := List.mem_filterMap.mp member
    exact Node.part_item? (Node.within_children part child inside) found

theorem within_indexedBelow (x : Float) : Path.Within document (indexedBelow x nodes) :=
  within.flatMap fun _ => Node.within_walk fun _ part =>
    .toList fun _ => Node.part_getElem?_items part

theorem within_slice (first last step : Nat) :
    Path.Within document (slice first last step nodes) := by
  intro n member
  obtain ⟨⟨m, i⟩, kept, rfl⟩ := List.mem_map.mp member
  exact within _ (List.fst_mem_of_mem_zipIdx (List.mem_filter.mp kept).1)

theorem within_sliced (first last : Option Int) (step : Nat) :
    Path.Within document (sliced first last step nodes) :=
  within.flatMap fun _ part => within_slice (Node.within_items part) _ _ _

theorem within_united (indices : List Int) : Path.Within document (united indices nodes) :=
  within.flatMap fun _ part => .filterMap fun _ _ => Node.part_item? part

theorem within_holdersBelow (name : String) :
    Path.Within document (holdersBelow name nodes).kept := by
  refine within.flatMap fun _ => Node.within_walk fun n part => ?_
  split
  · exact .singleton part
  · exact .nil

theorem within_holdersAmong (name : String) :
    Path.Within document (holdersAmong name nodes).kept :=
  Path.Within.of_subset
    (within.flatMap fun n part => Node.within_holdersFrom name n.place n.value part)
    (Node.distinct_subset _)

theorem within_focus (sought : Option Sought) : Path.Within document (focus sought nodes) := by
  unfold focus
  split
  · rename_i key
    intro m member
    obtain ⟨n, inside, rfl⟩ := List.mem_map.mp member
    cases found : n.member? key with
    | none => exact within n inside
    | some m => exact Node.part_member? (within n inside) found
  · exact within

end Frame

namespace Frame

variable {f g : Frame}

theorem within_narrow {narrowing : List Node → Narrowed} (within : f.Within document)
    (closed : ∀ nodes, Path.Within document nodes → Path.Within document (narrowing nodes).kept)
    (narrowed : f.narrow narrowing = some g) : g.Within document := by
  unfold narrow at narrowed
  split at narrowed
  · cases narrowed
    exact within
  · rename_i rest shape
    have kept : rest ⊆ f.operands := shape ▸ List.subset_cons_self none rest
    split at narrowed
    · cases narrowed
      exact within_operands within fun t member => within.operands t (kept member)
    · rename_i nodes present
      cases narrowed
      have top := Term.within_unowned (closed nodes (within.current nodes present))
        (some (narrowing nodes).sought)
      exact within_onTop within (fun _ same => Option.some.inj same ▸ top) kept
  · rename_i owners sought reached rest shape
    have kept : rest ⊆ f.operands := shape ▸ List.subset_cons_self _ rest
    obtain ⟨mine, inside⟩ := within.operands _ (shape ▸ List.mem_cons_self)
    cases narrowed
    refine within_onTop within (fun t same => ?_) kept
    cases same
    refine Term.within_owned ?_ (closed _ (within_focus inside sought)) _
    split
    · exact mine _ rfl
    · intro n chosen
      obtain ⟨⟨m, i⟩, listed, rfl⟩ := List.mem_map.mp chosen
      exact inside m (List.fst_mem_of_mem_zipIdx (List.mem_filter.mp listed).1)
  · cases narrowed

theorem within_applyAll (within : f.Within document) : f.applyAll.Within document := by
  unfold applyAll
  extract_lets rest
  have opened : rest.Within document := by
    unfold rest
    split
    · exact within_dropPending within
    · exact within
  split
  · exact within_mapCurrent (within_dropPending opened) fun _ => within_below
  · exact within_mapCurrent (within_dropPending opened) fun _ => within_childrenOf
  · exact within_mapCurrent opened fun _ => within_childrenOf

theorem within_applyKey {name : String} (within : f.Within document)
    (applied : f.applyKey name = some g) : g.Within document := by
  have dropped := within_dropPending within
  unfold applyKey at applied
  split at applied
  · cases applied
    exact within
  · cases applied
    exact within_push within trivial
  · dsimp only at applied
    split at applied
    · cases applied
      exact within_mapCurrent dropped fun _ inside => within_namedBelow inside name
    · exact within_narrow dropped (fun _ inside => within_holdersBelow inside name) applied
  · dsimp only at applied
    split at applied
    · cases applied
      exact within_stepTo dropped fun _ inside => within_named inside [name]
    · exact within_narrow dropped (fun _ inside => within_holdersAmong inside name) applied

theorem within_choice {choose : Frame → List Node → List Node} (within : f.Within document)
    (closed : ∀ nodes, Path.Within document nodes → Path.Within document (choose f nodes))
    (selected : f.select choose = some g) : g.Within document := by
  unfold select at selected
  split at selected
  · cases selected
    exact within_mapCurrent (within_dropPending within) closed
  · cases selected

theorem within_resolveOperand (within : f.Within document) :
    f.resolveOperand.Within document := by
  obtain ⟨rest, top⟩ := within_popTerm within
  unfold resolveOperand
  split <;> rename_i popped <;> rw [popped] at rest top
  · exact rest
  · exact within_stepTo rest fun _ inside => within_indexed inside _
  · exact within_stepTo rest fun _ inside => within_named inside _
  · rename_i owners _ reached _
    obtain ⟨mine, inside⟩ := top _ rfl
    refine within_select rest ?_
    split
    · exact .nil
    · cases owners with
      | none => exact inside
      | some owners => exact mine owners rfl
  · exact within_select rest .nil
  · exact rest

theorem within_closeSubscript (within : f.Within document)
    (closed : f.closeSubscript = some g) : g.Within document := by
  unfold closeSubscript at closed
  split at closed
  · obtain ⟨rest, top⟩ := within_popTerm within
    split at closed <;> rename_i popped <;> rw [popped] at rest top
    · obtain ⟨narrowed, step, rfl⟩ := Option.map_eq_some_iff.mp closed
      exact within_dropPending
        (within_narrow rest (fun _ inside => within_holdersAmong inside _) step)
    · cases closed
      exact within_dropPending (within_resolveOperand (within_push rest (top _ rfl)))
    · cases closed
      exact within_dropPending (within_resolveOperand rest)
  · rename_i _ _ later _
    obtain ⟨rest, top⟩ := within_popTerm (within_pending within later)
    split at closed <;> rename_i popped <;> rw [popped] at rest top <;> cases closed
    · exact within_dropOperand (within_mapCurrent rest fun _ inside => within_indexedBelow inside _)
    · exact within_dropOperand (within_mapCurrent rest fun _ inside => within_namedBelow inside _)
    · exact within_dropPending (within_resolveOperand (within_push rest (top _ rfl)))
    · exact within_dropPending (within_resolveOperand rest)
  · cases closed
    exact within_dropPending (within_resolveOperand within)

theorem within_applyHere (within : f.Within document) : f.applyHere.Within document := by
  unfold applyHere
  split
  · exact within_pushAbsent (within_mapCurrent (within_pending within _) fun _ => within_below)
  · exact within_pushAbsent within

theorem within_applyCompare {op : Operator} (within : f.Within document)
    (compared : f.applyCompare op = some g) : g.Within document := by
  unfold applyCompare at compared
  split at compared
  · rename_i right left rest shape
    cases compared
    have first : (f.operand left).Within document :=
      within_operand within (shape ▸ List.mem_cons_of_mem _ List.mem_cons_self)
    have second : (f.operand right).Within document :=
      within_operand within (shape ▸ List.mem_cons_self)
    have kept : rest ⊆ f.operands := fun t member =>
      shape ▸ List.mem_cons_of_mem _ (List.mem_cons_of_mem _ member)
    exact within_onTop within
      (fun _ same => Option.some.inj same ▸ within_compare op first second) kept
  · cases compared

/-- One instruction inside a frame. -/
theorem within_run {i : Instruction} (within : f.Within document) (ran : f.run i = some g) :
    g.Within document := by
  cases i with
  | all => cases ran; exact within_applyAll within
  | key name => exact within_applyKey within ran
  | keys names =>
    simp only [run] at ran
    exact within_choice within (fun _ inside => within_named inside names) ran
  | number value => cases ran; exact within_push within trivial
  | truth value => cases ran; exact within_push within trivial
  | range first last step =>
    simp only [run] at ran
    split at ran
    · split at ran
      · cases ran
      · exact within_choice within (fun _ _ => .nil) ran
    · exact within_choice within (fun _ inside => within_sliced inside first last _) ran
  | union indices =>
    simp only [run] at ran
    exact within_choice within (fun _ inside => within_united inside indices) ran
  | child | deep | openSubscript => cases ran; exact within_pending within _
  | closeSubscript => exact within_closeSubscript within ran
  | here => cases ran; exact within_applyHere within
  | compare op => exact within_applyCompare within ran
  | root => cases ran; exact within

end Frame

end BulkActions.Path
