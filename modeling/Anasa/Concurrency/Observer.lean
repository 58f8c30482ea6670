import Anasa.Concurrency.Pool

/-!
# Observers

A party outside a pool that makes the accesses of a program while the threads of the pool go on:
before each access they make any moves. An observer that only reads sees the states of a run.
-/

namespace Concurrency.Pool

variable {ι κ σ α β : Type} [DecidableEq ι]

/-- The result of an observer and the pool it leaves; before its `n`-th access the threads make the
moves `schedule n`. -/
def observe (M : Machine ι κ σ) (schedule : ℕ → List (Move ι κ)) :
    Prog σ α → ℕ → Pool ι σ → α × Pool ι σ
  | .pure a, _, p => (a, p)
  | .access f k, n, p =>
    observe M schedule (k (run M (schedule n) p).state) (n + 1)
      { run M (schedule n) p with state := f (run M (schedule n) p).state }

variable {M : Machine ι κ σ} {schedule : ℕ → List (Move ι κ)} {n : ℕ} {p : Pool ι σ}

@[simp] theorem observe_pure (a : α) :
    observe M schedule (pure a : Prog σ α) n p = (a, p) := rfl

@[simp] theorem observe_read_bind (r : σ → α) (g : α → Prog σ β) :
    observe M schedule (.read r >>= g) n p =
      observe M schedule (g (r (run M (schedule n) p).state)) (n + 1) (run M (schedule n) p) := rfl

end Concurrency.Pool
