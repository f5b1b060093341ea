import BulkActions.Path.Answer
import BulkActions.Path.Machine
import BulkActions.Proofs.Json.Distinct

/-! The parts of a document, and nodes that stand for them. Going down from such nodes, to children,
members, items or every depth, gives such nodes again. -/

namespace BulkActions

theorem Json.Part.distinctKeys {document v : Json} (part : Part document v)
    (distinct : document.distinctKeys = true) : v.distinctKeys = true := by
  induction part with
  | self => exact distinct
  | item _ member whole => exact (distinctKeys_arr _).mp whole _ member
  | member _ member whole => exact ((distinctKeys_obj _).mp whole).2 _ member

namespace Path

/-- Nodes whose values are parts of a document. -/
def Within (document : Json) (nodes : List Node) : Prop :=
  ∀ n ∈ nodes, document.Part n.value

namespace Within

variable {document : Json} {nodes : List Node}

theorem nil : Within document [] := by
  intro n member
  cases member

theorem singleton {n : Node} (part : document.Part n.value) : Within document [n] := by
  intro m member
  rw [List.mem_singleton.mp member]
  exact part

theorem cons {n : Node} (part : document.Part n.value) (rest : Within document nodes) :
    Within document (n :: nodes) :=
  List.forall_mem_cons.mpr ⟨part, rest⟩

theorem append {more : List Node} (left : Within document nodes) (right : Within document more) :
    Within document (nodes ++ more) :=
  List.forall_mem_append.mpr ⟨left, right⟩

theorem of_subset {some : List Node} (within : Within document nodes) (subset : some ⊆ nodes) :
    Within document some :=
  fun n member => within n (subset member)

theorem collect {α : Type} {choices : List α} {f : α → List Node}
    (each : ∀ choice ∈ choices, Within document (f choice)) :
    Within document (choices.flatMap f) := by
  intro n member
  obtain ⟨choice, origin, inner⟩ := List.mem_flatMap.mp member
  exact each choice origin n inner

theorem flatMap {f : Node → List Node} (within : Within document nodes)
    (below : ∀ n, document.Part n.value → Within document (f n)) :
    Within document (nodes.flatMap f) :=
  .collect fun n member => below n (within n member)

theorem toList {found : Option Node} (part : ∀ n, found = some n → document.Part n.value) :
    Within document found.toList := by
  intro n member
  exact part n (Option.mem_toList.mp member)

theorem filterMap {α : Type} {choices : List α} {f : α → Option Node}
    (part : ∀ choice n, f choice = some n → document.Part n.value) :
    Within document (choices.filterMap f) := by
  intro n member
  obtain ⟨choice, _, found⟩ := List.mem_filterMap.mp member
  exact part choice n found

end Within

namespace Node

variable {document : Json}

theorem within_numbered (place : List Nat) (start : Nat) {items : List Json}
    (parts : ∀ v ∈ items, document.Part v) : Within document (numbered place start items) := by
  induction items generalizing start with
  | nil => exact .nil
  | cons v rest ih =>
    obtain ⟨first, later⟩ := List.forall_mem_cons.mp parts
    exact .cons first (ih _ later)

theorem within_children {n : Node} (part : document.Part n.value) :
    Within document n.children := by
  unfold children
  split
  · rename_i items shape
    rw [shape] at part
    exact within_numbered _ _ fun v member => part.item member
  · rename_i fields shape
    rw [shape] at part
    refine within_numbered _ _ fun v member => ?_
    obtain ⟨binding, inside, rfl⟩ := List.mem_map.mp member
    exact part.member inside
  · exact .nil

theorem within_items {n : Node} (part : document.Part n.value) : Within document n.items := by
  unfold items
  split
  · rename_i items shape
    rw [shape] at part
    exact within_numbered _ _ fun v member => part.item member
  · exact .nil

theorem mem_of_memberFrom {place : List Nat} {name : String} {i : Nat}
    {fields : List (String × Json)} {m : Node} (found : memberFrom place name i fields = some m) :
    ∃ binding ∈ fields, binding.2 = m.value := by
  induction fields generalizing i with
  | nil => cases found
  | cons binding rest ih =>
    rw [memberFrom] at found
    split at found
    · cases found
      exact ⟨binding, List.mem_cons_self, rfl⟩
    · obtain ⟨other, inside, same⟩ := ih found
      exact ⟨other, List.mem_cons_of_mem _ inside, same⟩

theorem part_member? {n m : Node} {name : String} (part : document.Part n.value)
    (found : n.member? name = some m) : document.Part m.value := by
  unfold member? at found
  split at found
  · rename_i fields shape
    rw [shape] at part
    obtain ⟨binding, inside, same⟩ := mem_of_memberFrom found
    exact same ▸ part.member inside
  · cases found

theorem part_getElem?_items {n m : Node} {i : Nat} (part : document.Part n.value)
    (found : n.items[i]? = some m) : document.Part m.value :=
  within_items part m (List.mem_of_getElem? found)

theorem part_item? {n m : Node} {index : Int} (part : document.Part n.value)
    (found : n.item? index = some m) : document.Part m.value :=
  part_getElem?_items part found

mutual

theorem within_walkFrom {visit : Node → List Node}
    (visited : ∀ n, document.Part n.value → Within document (visit n)) (place : List Nat) :
    (v : Json) → document.Part v → Within document (walkFrom visit place v)
  | .arr items, part =>
    (visited _ part).append
      (within_walkItems visited place 0 items fun _ member => part.item member)
  | .obj fields, part =>
    (visited _ part).append
      (within_walkFields visited place 0 fields fun _ member => part.member member)
  | .null, part | .bool _, part | .num _, part | .str _, part => visited _ part

theorem within_walkItems {visit : Node → List Node}
    (visited : ∀ n, document.Part n.value → Within document (visit n)) (place : List Nat) (i : Nat) :
    (items : List Json) → (∀ v ∈ items, document.Part v) →
    Within document (walkItems visit place i items)
  | [], _ => .nil
  | v :: rest, parts =>
    (within_walkFrom visited (i :: place) v (parts v List.mem_cons_self)).append
      (within_walkItems visited place (i + 1) rest fun w member =>
        parts w (List.mem_cons_of_mem _ member))

theorem within_walkFields {visit : Node → List Node}
    (visited : ∀ n, document.Part n.value → Within document (visit n)) (place : List Nat) (i : Nat) :
    (fields : List (String × Json)) → (∀ binding ∈ fields, document.Part binding.2) →
    Within document (walkFields visit place i fields)
  | [], _ => .nil
  | (name, v) :: rest, parts =>
    (within_walkFrom visited (i :: place) v (parts (name, v) List.mem_cons_self)).append
      (within_walkFields visited place (i + 1) rest fun w member =>
        parts w (List.mem_cons_of_mem _ member))

end

theorem within_walk {visit : Node → List Node}
    (visited : ∀ n, document.Part n.value → Within document (visit n)) {n : Node}
    (part : document.Part n.value) : Within document (n.walk visit) :=
  within_walkFrom visited n.place n.value part

mutual

theorem within_holdersFrom (name : String) (place : List Nat) : (v : Json) → document.Part v →
    Within document (holdersFrom name place v)
  | .arr items, part => within_holderItems name place 0 items fun v member => part.item member
  | .null, part | .bool _, part | .num _, part | .str _, part | .obj _, part => by
    unfold holdersFrom
    split
    · exact .singleton part
    · exact .nil

theorem within_holderItems (name : String) (place : List Nat) (i : Nat) : (items : List Json) →
    (∀ v ∈ items, document.Part v) → Within document (holderItems name place i items)
  | [], _ => .nil
  | v :: rest, parts =>
    (within_holdersFrom name (i :: place) v (parts v List.mem_cons_self)).append
      (within_holderItems name place (i + 1) rest fun w member =>
        parts w (List.mem_cons_of_mem _ member))

end

private theorem foldl_keep_subset (seen : List Node → Node → Bool) (nodes kept : List Node) :
    nodes.foldl (fun kept n => if seen kept n then kept else n :: kept) kept ⊆ kept ++ nodes := by
  induction nodes generalizing kept with
  | nil => simp
  | cons n rest ih =>
    intro m member
    have next := ih _ member
    simp only at next
    split at next
    · simp only [List.mem_append, List.mem_cons] at next ⊢
      exact next.imp_right .inr
    · simp only [List.cons_append, List.mem_append, List.mem_cons] at next ⊢
      rcases next with head | old | later
      · exact .inr (.inl head)
      · exact .inl old
      · exact .inr (.inr later)

theorem distinct_subset (nodes : List Node) : distinct nodes ⊆ nodes := by
  intro n member
  simpa using foldl_keep_subset _ nodes [] (List.mem_reverse.mp member)

theorem distinctValues_subset (nodes : List Node) : distinctValues nodes ⊆ nodes := by
  intro n member
  simpa using foldl_keep_subset _ nodes [] (List.mem_reverse.mp member)

end Node

end Path

end BulkActions
