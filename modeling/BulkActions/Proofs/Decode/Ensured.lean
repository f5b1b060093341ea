import BulkActions.Decode.Document

/-! What the readers of its fields ensure, a record ensures: whatever is read of it, by name or by
position, was built from values that its fields accepted. -/

namespace BulkActions.Decode

variable {σ α β : Type}

theorem lt_of_unsigned [Source σ] {bits n : Nat} {name : String} {v : σ}
    (read : unsigned bits name v = .ok n) : n < Nat.pow 2 bits := by
  unfold unsigned at read
  split at read
  · split at read
    · rename_i m _ bounded
      cases read
      have power : Int.pow 2 bits = (Nat.pow 2 bits : Int) := (Int.natCast_pow 2 bits).symm
      have below : m < (Nat.pow 2 bits : Int) := power ▸ bounded.2
      omega
    · cases read
  · cases read

/-- Where null is nothing, something was read by the reader itself. -/
theorem of_option [Source σ] {read : Decoder σ α} {v : σ} {a : α}
    (found : option read v = .ok (some a)) : read v = .ok a := by
  unfold option at found
  split at found
  · cases found
  · cases inner : read v with
    | error e => simp [inner, Except.map] at found
    | ok b => simpa [inner, Except.map] using found

namespace Record

/-- Whatever the record is built to has the property. -/
def Ensures (r : Record σ α) (p : α → Prop) : Prop :=
  ∀ position members a, r.build position members = .ok a → p a

variable {r : Record σ α} {p : α → Prop} {q : β → Prop}

theorem Ensures.map (ensures : r.Ensures p) {f : α → β} (carries : ∀ a, p a → q (f a)) :
    (f <$> r).Ensures q := by
  intro position members b built
  change (r.build position members).map f = .ok b at built
  cases inner : r.build position members with
  | error e => simp [inner, Except.map] at built
  | ok a =>
    simp only [inner, Except.map, Except.ok.injEq] at built
    exact built ▸ carries a (ensures position members a inner)

theorem Ensures.seq {f : Record σ (α → β)} (ensures : r.Ensures p)
    (first : f.Ensures fun g => ∀ a, p a → q (g a)) : (f <*> r).Ensures q := by
  intro position members b built
  change (Record.seq f r).build position members = .ok b at built
  simp only [Record.seq] at built
  cases left : f.build position members with
  | error e => simp [left] at built
  | ok g =>
    cases right : r.build (position + f.fields.length) members with
    | error e => simp [left, right, Except.map] at built
    | ok a =>
      simp only [left, right, Except.map, Except.ok.injEq] at built
      exact built ▸ first position members g left a (ensures _ members a right)

theorem ensures_optional {name : String} {read : Decoder σ (Option α)} {p : Option α → Prop}
    (absent : p none) (present : ∀ v a, read v = .ok a → p a) : (optional name read).Ensures p := by
  intro position members a built
  simp only [optional] at built
  split at built
  · exact present _ a built
  · split at built
    · cases built
      exact absent
    · cases built

theorem ensures_of_decoder [Source σ] (ensures : r.Ensures p) {name : String} {v : σ} {a : α}
    (read : decoder name r v = .ok a) : p a := by
  have members : ∀ ms, r.ofMembers ms = .ok a → p a := by
    intro ms built
    unfold ofMembers at built
    split at built
    · cases built
    · exact ensures _ _ a built
  have items : ∀ expected surplus vs, r.ofItems expected surplus vs = .ok a → p a := by
    intro expected surplus vs built
    simp only [ofItems] at built
    split at built
    · cases built
    · split at built
      · cases built
      · rename_i found
        split at built
        · cases built
        · cases built
          exact ensures _ _ a found
  simp only [decoder] at read
  split at read
  · exact members _ read
  · split at read
    · exact items _ _ _ read
    · cases read
  · split at read
    · exact members _ read
    · cases read
  · cases read

end Record

end BulkActions.Decode
