/-! Changes made in place: steps on a value, any of which may stop the rest with an error. What was
changed by then stays changed, so that an error comes with the value as the steps have left it. -/

namespace BulkActions

abbrev InPlace (σ ε : Type) := ExceptT ε (StateM σ)

namespace InPlace

variable {σ ε α β : Type}

/-- The value after steps on it, and what they come to. -/
def on (steps : InPlace σ ε α) (s : σ) : σ × Except ε α :=
  let (result, s) := Id.run ((ExceptT.run steps).run s)
  (s, result)

theorem on_bind (steps : InPlace σ ε α) (next : α → InPlace σ ε β) (s : σ) :
    on (steps >>= next) s =
      match steps.on s with
      | (s, .ok x) => (next x).on s
      | (s, .error e) => (s, .error e) := by
  unfold on
  rw [ExceptT.run_bind, StateT.run_bind]
  rcases steps.run.run s with ⟨e | x, s⟩ <;> rfl

theorem on_get_bind (next : σ → InPlace σ ε α) (s : σ) :
    on (get >>= next) s = (next s).on s := rfl

theorem on_modify (f : σ → σ) (s : σ) : on (ε := ε) (modify f) s = (f s, .ok ⟨⟩) := rfl

theorem on_modify_bind (f : σ → σ) (next : PUnit → InPlace σ ε α) (s : σ) :
    on (modify f >>= next) s = (next ⟨⟩).on (f s) := rfl

theorem on_pure (x : α) (s : σ) : on (pure x : InPlace σ ε α) s = (s, .ok x) := rfl

theorem on_throw (e : ε) (s : σ) : on (throw e : InPlace σ ε α) s = (s, .error e) := rfl

theorem on_throw_bind (e : ε) (next : α → InPlace σ ε β) (s : σ) :
    on (throw e >>= next) s = (s, .error e) := rfl

theorem on_lift (result : Except ε α) (s : σ) :
    on (liftM result : InPlace σ ε α) s = (s, result) := rfl

theorem on_ite (p : Prop) [Decidable p] (steps others : InPlace σ ε α) (s : σ) :
    on (if p then steps else others) s = if p then steps.on s else others.on s := by
  split <;> rfl

end InPlace

end BulkActions
