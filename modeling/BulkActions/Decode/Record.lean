import BulkActions.Decode.Source

/-! Records. The members present are checked in the order they come in; only then the missing ones
are reported, in the order of the fields. -/

namespace BulkActions.Decode

/-- The members a record is built from. -/
structure Members (σ : Type) where
  get : String → Option σ
  /-- An optional field may be left out only where members have names. -/
  named : Bool
  /-- The report of a missing field, by its position and name. -/
  missing : Nat → String → Error

/-- A reader of records: its fields with a check of each, and the value built from the members,
counting fields from a position on. -/
structure Record (σ α : Type) where
  fields : List (String × Decoder σ Unit)
  build : Nat → Members σ → Except Error α

namespace Record

variable {σ α β : Type}

def checkOf (read : Decoder σ α) : Decoder σ Unit := fun v => (read v).map fun _ => ()

def required (name : String) (read : Decoder σ α) : Record σ α where
  fields := [(name, checkOf read)]
  build position members :=
    match members.get name with
    | some v => read v
    | none => .error (members.missing position name)

/-- Left out among named members, the field is nothing. -/
def optional (name : String) (read : Decoder σ (Option α)) : Record σ (Option α) where
  fields := [(name, checkOf read)]
  build position members :=
    match members.get name with
    | some v => read v
    | none => if members.named then .ok none else .error (members.missing position name)

def defaulted (name : String) (read : Decoder σ α) (value : α) : Record σ α where
  fields := [(name, checkOf read)]
  build _ members :=
    match members.get name with
    | some v => read v
    | none => .ok value

def pure (value : α) : Record σ α := ⟨[], fun _ _ => .ok value⟩

def map (f : α → β) (r : Record σ α) : Record σ β :=
  ⟨r.fields, fun position members => (r.build position members).map f⟩

/-- The fields on the left come first. -/
def seq (f : Record σ (α → β)) (r : Record σ α) : Record σ β where
  fields := f.fields ++ r.fields
  build position members :=
    match f.build position members with
    | .error e => .error e
    | .ok g => (r.build (position + f.fields.length) members).map g

instance : Functor (Record σ) := ⟨fun f r => map f r, fun a r => map (fun _ => a) r⟩

instance : Pure (Record σ) := ⟨pure⟩

instance : Seq (Record σ) := ⟨fun f r => seq f (r ())⟩

/-- The first fault among the members present, given the fields seen in front of them. A field may
be given once. -/
def check (fields : List (String × Decoder σ Unit)) (seen : List String) :
    List (Key × σ) → Except Error Unit
  | [] => .ok ()
  | (.other found, _) :: _ => .error (.wrongType found "field identifier")
  | (.name name, v) :: rest =>
    match fields.lookup name with
    | none => check fields seen rest
    | some read =>
      if seen.contains name then .error (.duplicateField name)
      else
        match read v with
        | .error e => .error e
        | .ok _ => check fields (name :: seen) rest

def find (members : List (Key × σ)) (name : String) : Option σ :=
  (members.find? fun member => member.1 == .name name).map Prod.snd

def ofMembers (r : Record σ α) (members : List (Key × σ)) : Except Error α :=
  match check r.fields [] members with
  | .error e => .error e
  | .ok _ => r.build 0 ⟨find members, true, fun _ name => .missingField name⟩

/-- The members of a sequence get the names of the fields. -/
def ofItems (r : Record σ α) (expected : String) (surplus : String) (items : List σ) :
    Except Error α :=
  let members := (r.fields.map fun field => Key.name field.1).zip items
  match check r.fields [] members with
  | .error e => .error e
  | .ok _ =>
    match r.build 0 ⟨find members, false, fun position _ => .wrongLength position expected⟩ with
    | .error e => .error e
    | .ok a =>
      if r.fields.length < items.length then .error (.wrongLength items.length surplus) else .ok a

variable [Source σ]

/-- A record, from its members by name or, where the value allows it, by position. -/
def decoder (name : String) (r : Record σ α) : Decoder σ α := fun v =>
  let rules := Source.rules v
  match Source.shape v with
  | .map members => r.ofMembers members
  | .sequence items =>
    if rules.positional then
      let count := r.fields.length
      r.ofItems s!"struct {name} with {elements count}" (rules.surplus count) items
    else wrongType v s!"struct {name}"
  | .null => if rules.nullRecord then r.ofMembers [] else wrongType v s!"struct {name}"
  | _ => wrongType v s!"struct {name}"

end Record

end BulkActions.Decode
