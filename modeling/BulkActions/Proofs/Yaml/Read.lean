import BulkActions.Proofs.Json.Bindings
import BulkActions.Proofs.Yaml.Distinct
import BulkActions.Yaml.Document

/-! Every document that is read has distinct keys at every depth: a key is refused that an earlier
entry has, and an alias stands for a value that was read before. The readers are taken apart along
their steps, and each keeps what has been named so far free of repeated keys. -/

namespace BulkActions.Yaml

/-- What has been named so far has distinct keys. -/
def Reader.Sound (r : Reader) : Prop :=
  ∀ name a, (name, some a) ∈ r.anchors → a.value.distinctKeys = true

/-- From a sound state a reader comes to a sound one, with an answer of this kind. -/
def Yields {α : Type} (read : Reading α) (kind : α → Prop) : Prop :=
  ∀ r a s, r.Sound → read r = .ok (a, s) → kind a ∧ s.Sound

namespace Yields

variable {α β : Type} {read : Reading α} {kind : α → Prop} {other : β → Prop}

theorem pure {a : α} (holds : kind a) : Yields (Pure.pure a) kind := by
  intro r b s sound ran
  cases ran
  exact ⟨holds, sound⟩

theorem bind {next : α → Reading β} (first : Yields read kind)
    (later : ∀ a, kind a → Yields (next a) other) : Yields (read >>= next) other := by
  intro r b t sound ran
  change (read r >>= fun (a, s) => next a s) = .ok (b, t) at ran
  cases step : read r with
  | error e =>
    rw [step] at ran
    cases ran
  | ok left =>
    obtain ⟨a, s⟩ := left
    rw [step] at ran
    obtain ⟨holds, still⟩ := first r a s sound step
    exact later a holds s b t still ran

theorem throw (e : ParseError) : Yields (MonadExcept.throw e) kind := by
  intro r a s _ ran
  cases ran

theorem get : Yields MonadState.get Reader.Sound := by
  intro r a s sound ran
  cases ran
  exact ⟨sound, sound⟩

theorem modify {f : Reader → Reader} (keeps : ∀ r, r.Sound → (f r).Sound) :
    Yields (modify f) fun _ => True := by
  intro r a s sound ran
  cases ran
  exact ⟨trivial, keeps r sound⟩

/-- Two ways to an answer that is put to the same use. -/
theorem either {next : α → Reading β} {c : Prop} [Decidable c] {second : Reading α}
    (left : Yields read kind) (right : Yields second kind)
    (later : ∀ a, kind a → Yields (next a) other) :
    Yields (if c then read >>= next else second >>= next) other := by
  split
  · exact left.bind later
  · exact right.bind later

theorem map {f : α → β} (first : Yields read fun a => other (f a)) :
    Yields (StateT.map f read) other :=
  first.bind fun _ holds => pure holds

end Yields

section Words

theorem yields_peek : Yields peek fun _ => True := by
  refine Yields.get.bind fun r _ => ?_
  split <;> exact .pure trivial

theorem yields_advance : Yields advance fun _ => True := .modify fun _ sound => sound

theorem yields_count (events : Nat) : Yields (count events) fun _ => True :=
  .modify fun _ sound => sound

theorem yields_refuse {α : Type} (kind : α → Prop) (fault : Fault)
    (during : Option (Activity × Place)) : Yields (refuse fault during) kind := by
  refine yields_peek.bind fun word _ => ?_
  split <;> exact .throw _

theorem yields_fullTag (start place : Place) (handle suffix : String) :
    Yields (fullTag start place handle suffix) fun _ => True := by
  unfold fullTag
  split
  · exact .pure trivial
  · refine Yields.get.bind fun r _ => ?_
    split
    · exact .pure trivial
    · exact .throw _

theorem yields_anchor? : Yields anchor? fun _ => True := by
  refine yields_peek.bind fun word _ => ?_
  split
  · exact yields_advance.bind fun _ _ => .pure trivial
  · exact .pure trivial

theorem yields_tag? (start : Place) : Yields (tag? start) fun _ => True := by
  refine yields_peek.bind fun word _ => ?_
  split
  · exact yields_advance.bind fun _ _ => (yields_fullTag _ _ _ _).bind fun _ _ => .pure trivial
  · exact .pure trivial

theorem yields_properties (start : Place) : Yields (properties start) fun _ => True := by
  refine yields_anchor?.bind fun name _ => ?_
  split
  · exact (yields_tag? start).bind fun _ _ => .pure trivial
  · exact (yields_tag? start).bind fun _ _ => yields_anchor?.bind fun _ _ => .pure trivial

end Words

/-- In brackets a comma stands in front of everything but the first. -/
theorem yields_separated {α : Type} {kind : α → Prop} {c : Prop} [Decidable c] {fault : Fault}
    {during : Option (Activity × Place)} {next : Unit → Reading α}
    (later : ∀ u, Yields (next u) kind) :
    Yields (if c then do
        let word ← peek
        match word.token with
        | .comma => advance >>= next
        | _ => refuse fault during >>= next
      else next ()) kind := by
  split
  · refine yields_peek.bind fun word _ => ?_
    split
    · exact yields_advance.bind fun u _ => later u
    · exact (yields_refuse (fun _ => True) _ _).bind fun u _ => later u
  · exact later ()

section Nodes

/-- A value of which no mapping has two entries of one key. -/
def Node.Distinct (n : Node) : Prop := n.value.distinctKeys = true

theorem yields_nothing : Yields nothing Node.Distinct :=
  (yields_count 1).bind fun _ _ => .pure rfl

theorem distinctKeys_of_map {α : Type} {outcome : Except String α} {f : α → Yaml} {v : Yaml}
    (plain : ∀ a, outcome = .ok a → (f a).distinctKeys = true) (read : outcome.map f = .ok v) :
    v.distinctKeys = true := by
  cases outcome with
  | error reason => cases read
  | ok a =>
    cases read
    exact plain a rfl

/-- A scalar has no keys, and neither has one under a tag. -/
theorem distinctKeys_scalarValue {tag : Option String} {cs : List Char} {isPlain : Bool} {v : Yaml}
    (read : scalarValue tag cs isPlain = .ok v) : v.distinctKeys = true := by
  have untagged (w : Yaml)
      (bare : (if isPlain then (resolve cs).map .scalar else .ok (text (String.ofList cs))) =
        .ok w) : w.distinctKeys = true := by
    split at bare
    · exact distinctKeys_of_map (fun _ _ => rfl) bare
    · cases bare
      rfl
  unfold scalarValue at read
  extract_lets bare at read
  split at read
  · exact untagged v read
  · exact untagged v read
  · split at read
    · exact distinctKeys_of_map (fun _ _ => rfl) read
    · refine distinctKeys_of_map ?_ read
      exact untagged
    · cases read
      rfl

theorem yields_scalarNode (route : Route) (place : Place) (tag : Option String) (cs : List Char)
    (isPlain : Bool) : Yields (scalarNode route place tag cs isPlain) Node.Distinct := by
  refine (yields_count 1).bind fun _ _ => ?_
  split
  · rename_i v read
    exact .pure (distinctKeys_scalarValue read)
  · exact .throw _

theorem yields_aliasNode (place : Place) (name : String) :
    Yields (aliasNode place name) Node.Distinct := by
  refine (yields_count 1).bind fun _ _ => Yields.get.bind fun r sound => ?_
  split
  · exact .throw _
  · exact .throw _
  · rename_i a found
    refine Yields.bind (.modify fun _ still => still) fun _ _ => .pure ?_
    exact sound name a (Assoc.mem_of_find? found)

theorem yields_anchored (name : Option String) {read : Reading Node}
    (reads : Yields read Node.Distinct) : Yields (anchored name read) Node.Distinct := by
  unfold anchored
  split
  · exact reads
  · rename_i name
    refine Yields.bind (.modify fun r sound other a member => ?_) fun _ _ => Yields.get.bind
      fun _ _ => reads.bind fun n distinct => Yields.bind (.modify fun r sound other a member => ?_)
        fun _ _ => .pure distinct
    · rcases List.mem_cons.mp member with same | earlier
      · cases same
      · exact sound other a earlier
    · rcases List.mem_cons.mp member with same | earlier
      · cases same
        exact distinct
      · exact sound other a earlier

theorem distinctKeys_withTag (tag : Option String) (v : Yaml) :
    (withTag tag v).distinctKeys = v.distinctKeys := by
  unfold withTag
  split <;> rfl

theorem yields_checkKey (route : Route) (start : Place) (entries : Entries) (key : Yaml) :
    Yields (checkKey route start entries key) fun _ => Entries.find? entries key = none := by
  unfold checkKey
  split
  · exact .throw _
  · rename_i fresh
    exact .pure (by simpa using fresh)

theorem yields_enter {α : Type} {kind : α → Prop} (site : Site) (place : Place)
    {read : Site → Reading α} (reads : ∀ inner, Yields (read inner) kind) :
    Yields (site.enter place read) kind := by
  unfold Site.enter
  split
  · exact .throw _
  · exact (yields_count 2).bind fun _ _ => reads _

end Nodes

section Collections

variable {items : List Yaml} {entries : Entries}

/-- Items that were read last first. -/
theorem yields_sequence (distinct : ∀ v ∈ items, v.distinctKeys = true) :
    Yields (Pure.pure (sequence items.reverse)) (·.distinctKeys = true) :=
  .pure ((distinctItems_iff _).mpr fun v member => distinct v (List.mem_reverse.mp member))

theorem yields_mapping (distinct : distinctEntries entries = true) :
    Yields (Pure.pure (mapping entries.reverse)) (·.distinctKeys = true) :=
  .pure (Entries.distinctEntries_reverse distinct)

/-- One more entry, once its key was checked. -/
theorem distinctEntries_next (distinct : distinctEntries entries = true) {key value : Node}
    (fresh : Entries.find? entries key.value = none) (own : value.Distinct) :
    distinctEntries ((key.value, value.value) :: entries) = true :=
  (Entries.distinctEntries_cons_iff _ _).mpr ⟨fresh, own, distinct⟩

end Collections

/-- What the readers give back with so much fuel. -/
structure ReadsDistinct (fuel : Nat) : Prop where
  node : ∀ inBlock isLoose site, Yields (node inBlock isLoose site fuel) Node.Distinct
  content : ∀ inBlock isLoose site start isMarked tag,
    Yields (content inBlock isLoose site start isMarked tag fuel) Node.Distinct
  blockItems : ∀ site start index items, (∀ v ∈ items, v.distinctKeys = true) →
    Yields (blockItems site start index items fuel) (·.distinctKeys = true)
  looseItems : ∀ site index items, (∀ v ∈ items, v.distinctKeys = true) →
    Yields (looseItems site index items fuel) (·.distinctKeys = true)
  blockEntries : ∀ site place start entries, distinctEntries entries = true →
    Yields (blockEntries site place start entries fuel) (·.distinctKeys = true)
  flowValue : ∀ site close, Yields (flowValue site close fuel) Node.Distinct
  flowPair : ∀ site, Yields (flowPair site fuel) (·.distinctKeys = true)
  flowItems : ∀ site start isFirst index items, (∀ v ∈ items, v.distinctKeys = true) →
    Yields (flowItems site start isFirst index items fuel) (·.distinctKeys = true)
  flowEntries : ∀ site place start isFirst entries, distinctEntries entries = true →
    Yields (flowEntries site place start isFirst entries fuel) (·.distinctKeys = true)

namespace ReadsDistinct

variable {fuel : Nat}

theorem node_succ (reads : ReadsDistinct fuel) (inBlock isLoose : Bool) (site : Site) :
    Yields (Yaml.node inBlock isLoose site (fuel + 1)) Node.Distinct := by
  rw [Yaml.node]
  refine yields_peek.bind fun start _ => ?_
  split
  · exact yields_advance.bind fun _ _ => yields_aliasNode _ _
  · exact (yields_properties _).bind fun _ _ => yields_anchored _ (reads.content _ _ _ _ _ _)

theorem content_succ (reads : ReadsDistinct fuel) (inBlock isLoose : Bool) (site : Site)
    (start : Place) (isMarked : Bool) (tag : Option String) :
    Yields (Yaml.content inBlock isLoose site start isMarked tag (fuel + 1)) Node.Distinct := by
  rw [Yaml.content]
  have collection {read : Site → Reading Yaml}
      (inner : ∀ site, Yields (read site) (·.distinctKeys = true)) :
      Yields (site.enter start fun site => return ⟨withTag tag (← read site), none⟩)
        Node.Distinct :=
    yields_enter _ _ fun site => (inner site).bind fun v distinct =>
      .pure ((distinctKeys_withTag tag v).trans distinct)
  refine yields_peek.bind fun word _ => ?_
  extract_lets opened
  split
  · exact collection fun site => reads.looseItems site 0 [] nofun
  · exact yields_advance.bind fun _ _ => yields_scalarNode _ _ _ _ _
  · exact yields_advance.bind fun _ _ => collection fun site => reads.flowItems site _ _ _ [] nofun
  · exact yields_advance.bind fun _ _ => collection fun site => reads.flowEntries site _ _ _ [] rfl
  · exact yields_advance.bind fun _ _ => collection fun site => reads.blockItems site _ _ [] nofun
  · exact yields_advance.bind fun _ _ => collection fun site => reads.blockEntries site _ _ [] rfl
  · split
    · exact yields_scalarNode _ _ _ _ _
    · exact yields_refuse _ _ _

theorem blockItems_succ (reads : ReadsDistinct fuel) (site : Site) (start : Place) (index : Nat)
    (items : List Yaml) (distinct : ∀ v ∈ items, v.distinctKeys = true) :
    Yields (Yaml.blockItems site start index items (fuel + 1)) (·.distinctKeys = true) := by
  rw [Yaml.blockItems]
  refine yields_peek.bind fun word _ => ?_
  split
  · refine yields_advance.bind fun _ _ => yields_peek.bind fun next _ => ?_
    exact .either yields_nothing (reads.node _ _ _) fun item own =>
      reads.blockItems _ _ _ _ (List.forall_mem_cons.mpr ⟨own, distinct⟩)
  · exact yields_advance.bind fun _ _ => yields_sequence distinct
  · exact yields_refuse _ _ _

theorem looseItems_succ (reads : ReadsDistinct fuel) (site : Site) (index : Nat)
    (items : List Yaml) (distinct : ∀ v ∈ items, v.distinctKeys = true) :
    Yields (Yaml.looseItems site index items (fuel + 1)) (·.distinctKeys = true) := by
  rw [Yaml.looseItems]
  refine yields_peek.bind fun word _ => ?_
  split
  · refine yields_advance.bind fun _ _ => yields_peek.bind fun next _ => ?_
    exact .either yields_nothing (reads.node _ _ _) fun item own =>
      reads.looseItems _ _ _ (List.forall_mem_cons.mpr ⟨own, distinct⟩)
  · exact yields_sequence distinct

theorem blockEntries_succ (reads : ReadsDistinct fuel) (site : Site) (place start : Place)
    (entries : Entries) (distinct : distinctEntries entries = true) :
    Yields (Yaml.blockEntries site place start entries (fuel + 1)) (·.distinctKeys = true) := by
  rw [Yaml.blockEntries]
  refine yields_peek.bind fun word _ => ?_
  split
  · refine yields_advance.bind fun _ _ => yields_peek.bind fun next _ => ?_
    refine .either yields_nothing (reads.node _ _ _) fun key _ => ?_
    refine (yields_checkKey _ _ _ _).bind fun _ fresh => yields_peek.bind fun behind _ => ?_
    -- However the value is read, the entry is checked and the next one follows.
    extract_lets goOn
    have later (value : Node) (own : value.Distinct) :
        Yields (goOn value) (·.distinctKeys = true) :=
      reads.blockEntries _ _ _ _ (distinctEntries_next distinct fresh own)
    split
    · refine yields_advance.bind fun _ _ => yields_peek.bind fun last _ => ?_
      exact .either yields_nothing (reads.node _ _ _) later
    · exact yields_nothing.bind later
  · exact yields_advance.bind fun _ _ => yields_mapping distinct
  · exact yields_refuse _ _ _

theorem flowValue_succ (reads : ReadsDistinct fuel) (site : Site) (close : Token) :
    Yields (Yaml.flowValue site close (fuel + 1)) Node.Distinct := by
  rw [Yaml.flowValue]
  refine yields_peek.bind fun word _ => ?_
  split
  · refine yields_advance.bind fun _ _ => yields_peek.bind fun next _ => ?_
    split
    · exact yields_nothing
    · exact reads.node _ _ _
  · exact yields_nothing

theorem flowPair_succ (reads : ReadsDistinct fuel) (site : Site) :
    Yields (Yaml.flowPair site (fuel + 1)) (·.distinctKeys = true) := by
  rw [Yaml.flowPair]
  refine yields_peek.bind fun first _ => ?_
  extract_lets word goOn
  have later (key : Node) : Yields (goOn key) (·.distinctKeys = true) := by
    have none : distinctEntries [] = true := rfl
    exact (reads.flowValue _ _).bind fun value own => .pure (distinctEntries_next none rfl own)
  split
  · exact yields_advance.bind fun _ _ => yields_nothing.bind fun key _ => later key
  · exact (reads.node _ _ _).bind fun key _ => later key

theorem flowItems_succ (reads : ReadsDistinct fuel) (site : Site) (start : Place) (isFirst : Bool)
    (index : Nat) (items : List Yaml) (distinct : ∀ v ∈ items, v.distinctKeys = true) :
    Yields (Yaml.flowItems site start isFirst index items (fuel + 1)) (·.distinctKeys = true) := by
  rw [Yaml.flowItems]
  refine yields_peek.bind fun first _ => ?_
  extract_lets goOn
  have later (v : Yaml) (own : v.distinctKeys = true) :
      Yields (Yaml.flowItems site start false (index + 1) (v :: items) fuel)
        (·.distinctKeys = true) :=
    reads.flowItems _ _ _ _ _ (List.forall_mem_cons.mpr ⟨own, distinct⟩)
  have item (u : Unit) : Yields (goOn u) (·.distinctKeys = true) := by
    refine yields_peek.bind fun word _ => ?_
    split
    · exact yields_advance.bind fun _ _ => yields_sequence distinct
    · exact yields_advance.bind fun _ _ =>
        (yields_enter _ _ fun inner => reads.flowPair inner).bind later
    · exact (reads.node _ _ _).bind fun n own => later n.value own
  exact yields_separated item

theorem flowEntries_succ (reads : ReadsDistinct fuel) (site : Site) (place start : Place)
    (isFirst : Bool) (entries : Entries) (distinct : distinctEntries entries = true) :
    Yields (Yaml.flowEntries site place start isFirst entries (fuel + 1))
      (·.distinctKeys = true) := by
  rw [Yaml.flowEntries]
  refine yields_peek.bind fun first _ => ?_
  -- What follows a key with a mark in front, and what follows the comma.
  extract_lets keyed goOn
  have later {key value : Node} (fresh : Entries.find? entries key.value = none)
      (own : value.Distinct) :
      Yields (Yaml.flowEntries site place start false ((key.value, value.value) :: entries) fuel)
        (·.distinctKeys = true) :=
    reads.flowEntries _ _ _ _ _ (distinctEntries_next distinct fresh own)
  have entry (u : Unit) : Yields (goOn u) (·.distinctKeys = true) := by
    refine yields_peek.bind fun word _ => ?_
    split
    · exact yields_advance.bind fun _ _ => yields_mapping distinct
    · refine yields_advance.bind fun _ _ => yields_peek.bind fun next _ => ?_
      exact .either yields_nothing (reads.node _ _ _) fun key _ =>
        (yields_checkKey _ _ _ _).bind fun _ fresh =>
          (reads.flowValue _ _).bind fun value own => later fresh own
    · exact (reads.node _ _ _).bind fun key _ =>
        (yields_checkKey _ _ _ _).bind fun _ fresh =>
          yields_nothing.bind fun value own => later fresh own
  exact yields_separated entry

end ReadsDistinct

theorem readsDistinct (fuel : Nat) : ReadsDistinct fuel := by
  induction fuel with
  | zero =>
    constructor
    case node => intros; rw [node]; exact yields_refuse _ _ _
    case content => intros; rw [content]; exact yields_refuse _ _ _
    case blockItems => intros; rw [blockItems]; exact yields_refuse _ _ _
    case looseItems => intros; rw [looseItems]; exact yields_refuse _ _ _
    case blockEntries => intros; rw [blockEntries]; exact yields_refuse _ _ _
    case flowValue => intros; rw [flowValue]; exact yields_refuse _ _ _
    case flowPair => intros; rw [flowPair]; exact yields_refuse _ _ _
    case flowItems => intros; rw [flowItems]; exact yields_refuse _ _ _
    case flowEntries => intros; rw [flowEntries]; exact yields_refuse _ _ _
  | succ fuel reads =>
    -- A unit of fuel is one call, and every call a reader makes has one unit less.
    exact ⟨reads.node_succ, reads.content_succ, reads.blockItems_succ, reads.looseItems_succ,
      reads.blockEntries_succ, reads.flowValue_succ, reads.flowPair_succ, reads.flowItems_succ,
      reads.flowEntries_succ⟩

section Documents

theorem yields_directives (fuel : Nat) (hasVersion : Bool) (handles : List (String × String)) :
    Yields (directives hasVersion handles fuel) fun _ => True := by
  induction fuel generalizing hasVersion handles with
  | zero => exact .pure trivial
  | succ fuel ih =>
    rw [directives]
    refine yields_peek.bind fun word _ => ?_
    split
    · split
      · exact .throw _
      · split
        · exact .throw _
        · exact yields_advance.bind fun _ _ => ih _ _
    · split
      · exact .throw _
      · exact yields_advance.bind fun _ _ => ih _ _
    · exact .modify fun _ sound => sound

theorem yields_markedDocument (fuel : Nat) :
    Yields (markedDocument fuel) (·.distinctKeys = true) := by
  refine (yields_directives _ _ _).bind fun _ _ => yields_peek.bind fun word _ => ?_
  split
  · refine yields_advance.bind fun _ _ => yields_peek.bind fun next _ => ?_
    exact .either yields_nothing ((readsDistinct fuel).node _ _ _) fun n own => .pure own
  · exact yields_refuse _ _ _

theorem yields_firstDocument (fuel : Nat) :
    Yields (firstDocument fuel) (·.distinctKeys = true) := by
  have ended {read : Reading Yaml} (reads : Yields read (·.distinctKeys = true)) :
      Yields (firstDocument.endOf read) (·.distinctKeys = true) := by
    refine reads.bind fun v own => yields_peek.bind fun word _ => ?_
    split
    · exact yields_advance.bind fun _ _ => .pure own
    · exact .throw _
    · exact .pure own
  refine yields_peek.bind fun word _ => ?_
  split
  · exact .pure rfl
  · exact ended (yields_markedDocument fuel)
  · exact ended (yields_markedDocument fuel)
  · exact ended (yields_markedDocument fuel)
  · exact ended (.map ((readsDistinct fuel).node _ _ _))

theorem parse_distinctKeys {source : String} {v : Yaml} (read : parse source = .ok v) :
    v.distinctKeys = true := by
  unfold parse parseWords at read
  split at read
  · cases read
  · rename_i w r ran
    have start : Reader.Sound { words := words source.toList } := fun _ _ member =>
      absurd member List.not_mem_nil
    have own := (yields_firstDocument _ _ _ _ start ran).1
    split at read
    · cases read
    · split at read
      · cases read
      · split at read
        · cases read
          exact own
        · cases read

end Documents

end BulkActions.Yaml
