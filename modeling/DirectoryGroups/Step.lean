/-
DirectoryGroups/Step.lean

Steps: what a program does to a state, and what it tells of it.

A step reads a state and ends with a value or a failure.  Either way it leaves a
state and has told what happened, in order.  Steps are put one after another; a
failure ends the sequence.  `Step.ensuring` runs a last step on both exits, and a
failure of that one takes the place of the first.
-/
import DirectoryGroups.Failure

namespace DirectoryGroups

/-- How a step ended: with what, in which state, and after which happenings. -/
structure Outcome (σ τ α : Type) where
  result : Except Failure α
  state : σ
  trace : List τ

/-- A step over states `σ` that tells happenings `τ`. -/
def Step (σ τ α : Type) : Type :=
  σ → Outcome σ τ α

namespace Step

variable {σ κ τ υ α β γ : Type}

/-! ### Sequences -/

/-- The step that does nothing but end with a value. -/
protected def pure (a : α) : Step σ τ α := fun s =>
  ⟨.ok a, s, []⟩

/-- One step and then, unless it failed, the next. -/
protected def bind (x : Step σ τ α) (f : α → Step σ τ β) : Step σ τ β := fun s =>
  match x s with
  | ⟨.ok a, s, before⟩ =>
    let next := f a s
    ⟨next.result, next.state, before ++ next.trace⟩
  | ⟨.error failure, s, before⟩ => ⟨.error failure, s, before⟩

instance : Monad (Step σ τ) where
  pure := Step.pure
  bind := Step.bind

theorem pure_apply (a : α) (s : σ) : (pure a : Step σ τ α) s = ⟨.ok a, s, []⟩ := rfl

theorem bind_of_ok {x : Step σ τ α} {f : α → Step σ τ β} {s s' : σ} {a : α} {before : List τ}
    (h : x s = ⟨.ok a, s', before⟩) :
    (x >>= f) s = ⟨(f a s').result, (f a s').state, before ++ (f a s').trace⟩ := by
  simp only [bind, Step.bind, h]

theorem bind_of_error {x : Step σ τ α} {f : α → Step σ τ β} {s s' : σ} {failure : Failure}
    {before : List τ} (h : x s = ⟨.error failure, s', before⟩) :
    (x >>= f) s = ⟨.error failure, s', before⟩ := by
  simp only [bind, Step.bind, h]

theorem id_map_step (x : Step σ τ α) : id <$> x = x := by
  funext s
  rcases h : x s with ⟨_ | a, s', t⟩ <;>
    simp [Functor.map, Step.bind, Step.pure, h]

theorem bind_assoc_step (x : Step σ τ α) (f : α → Step σ τ β) (g : β → Step σ τ γ) :
    x >>= f >>= g = x >>= fun a => f a >>= g := by
  funext s
  rcases h : x s with ⟨_ | a, s', t⟩
  · simp [bind, Step.bind, h]
  · rcases h' : f a s' with ⟨_ | b, s'', t'⟩ <;> simp [bind, Step.bind, h, h']

instance : LawfulMonad (Step σ τ) :=
  LawfulMonad.mk' (Step σ τ) id_map_step (fun _ _ => rfl) bind_assoc_step

/-! ### Primitives -/

/-- The step that fails at once. -/
def fail (failure : Failure) : Step σ τ α := fun s =>
  ⟨.error failure, s, []⟩

/-- The step that only tells something. -/
def tell (happening : τ) : Step σ τ Unit := fun s =>
  ⟨.ok (), s, [happening]⟩

/-- The step that ends as a computation did. -/
def ofExcept (result : Except Failure α) : Step σ τ α := fun s =>
  ⟨result, s, []⟩

/-! ### Exits -/

/-- The same step, whose failure is its value. -/
def attempt (x : Step σ τ α) : Step σ τ (Except Failure α) := fun s =>
  let done := x s
  ⟨.ok done.result, done.state, done.trace⟩

/-- One step and then, whether it failed or not, another. -/
def ensuring (x : Step σ τ α) (last : Step σ τ Unit) : Step σ τ α := do
  let result ← x.attempt
  last
  ofExcept result

/-! ### Steps within steps -/

/-- The same step, told in other terms. -/
def relay (f : τ → υ) (x : Step σ τ α) : Step σ υ α := fun s =>
  let done := x s
  ⟨done.result, done.state, done.trace.map f⟩

/-- A step that also has a state of its own, which begins as `k` and is given up
at the end. -/
def holding (k : κ) (x : Step (κ × σ) τ α) : Step σ τ α := fun s =>
  let done := x (k, s)
  ⟨done.result, done.state.2, done.trace⟩

end Step

end DirectoryGroups
