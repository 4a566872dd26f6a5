import AbandonedBikes.Failure
/-!
# Calls that may fail

A call has effects of some kind and may be refused. A refusal does not take back what the call has
done before it.
-/

namespace AbandonedBikes

/-- A call with effects in `m` that may be refused. -/
abbrev Attempt (m : Type → Type) : Type → Type := ExceptT Failure m

namespace Attempt

variable {m : Type → Type} [Monad m] {α : Type}

/-- A call without effects. -/
def ofExcept (result : Except Failure α) : Attempt m α := ExceptT.mk (pure result)

/-- The value that is there, or else a failure. -/
def orElse (failure : Failure) (value : Option α) : Attempt m α :=
  ofExcept (match value with
    | some value => .ok value
    | none => .error failure)

/-- The same call beside a state that it does not touch. -/
def beside (σ : Type) (call : Attempt m α) : Attempt (StateT σ m) α :=
  ExceptT.mk (StateT.lift call.run)

@[simp] theorem run_ofExcept (result : Except Failure α) :
    (ofExcept result : Attempt m α).run = pure result := rfl

@[simp] theorem run_orElse_some (failure : Failure) (value : α) :
    (orElse failure (some value) : Attempt m α).run = pure (.ok value) := rfl

@[simp] theorem run_orElse_none (failure : Failure) :
    (orElse failure (none : Option α) : Attempt m α).run = pure (.error failure) := rfl

@[simp] theorem run_beside {σ : Type} (call : Attempt m α) (state : σ) :
    (call.beside σ).run.run state = do return (← call.run, state) := rfl

end Attempt

end AbandonedBikes
