import Mathlib.Logic.Function.Basic
import Mathlib.Order.Basic

/-!
# Programs over a shared state

A `Prog σ α` is a sequential program whose only effects are *accesses*: indivisible reads and
updates of a shared state `σ`. Between two accesses other threads may move, so one text of a
function has two readings:

1. `run`, the program executed from start to end with nobody in between;
2. the accesses taken one at a time, interleaved with those of other threads (`Pool`).

`Preserves` says that no access of a program changes a given part of the state.
-/

namespace Concurrency

/-- A program over a shared state: a result, or one access followed by a program that depends
on the state the access saw. -/
inductive Prog (σ α : Type) : Type where
  | pure (a : α) : Prog σ α
  | access (update : σ → σ) (next : σ → Prog σ α) : Prog σ α

namespace Prog

variable {σ α β γ τ : Type}

/-- Run `p`, then the program chosen by its result. -/
protected def bind : Prog σ α → (α → Prog σ β) → Prog σ β
  | .pure a, g => g a
  | .access f k, g => .access f fun s => (k s).bind g

instance : Monad (Prog σ) where
  pure := Prog.pure
  bind := Prog.bind

/-- One access that reads a value. -/
def read (r : σ → α) : Prog σ α := .access id fun s => .pure (r s)

/-- One access that updates the state. -/
def modify (f : σ → σ) : Prog σ Unit := .access f fun _ => .pure ()

/-- One access that reads a value and updates the state. -/
def atomically (f : σ → α × σ) : Prog σ α := .access (fun s => (f s).2) fun s => .pure (f s).1

/-- The programs `f x` for the members `x` of a list, in order. -/
def forEach (f : α → Prog σ Unit) : List α → Prog σ Unit
  | [] => Pure.pure ()
  | x :: xs => do
    f x
    forEach f xs

/-! ## Sequential runs -/

/-- The program executed with no access of another thread in between. -/
def run : Prog σ α → σ → α × σ
  | .pure a, s => (a, s)
  | .access f k, s => (k s).run (f s)

@[simp] theorem bind_eq (p : Prog σ α) (g : α → Prog σ β) : p.bind g = p >>= g := rfl

@[simp] theorem access_bind (f : σ → σ) (k : σ → Prog σ α) (g : α → Prog σ β) :
    (Prog.access f k >>= g) = .access f fun s => k s >>= g := rfl

instance : LawfulMonad (Prog σ) := LawfulMonad.mk' (Prog σ)
  (fun p => by
    induction p with
    | pure a => rfl
    | access f k ih => exact congrArg (Prog.access f) (funext ih))
  (fun _ _ => rfl)
  (fun p g h => by
    induction p with
    | pure a => rfl
    | access f k ih => exact congrArg (Prog.access f) (funext ih))

@[simp] theorem run_pure (a : α) (s : σ) : (Pure.pure a : Prog σ α).run s = (a, s) := rfl

@[simp] theorem run_pure' (a : α) (s : σ) : (Prog.pure a).run s = (a, s) := rfl

@[simp] theorem run_access (f : σ → σ) (k : σ → Prog σ α) (s : σ) :
    (Prog.access f k).run s = (k s).run (f s) := rfl

@[simp] theorem run_bind (p : Prog σ α) (g : α → Prog σ β) (s : σ) :
    (p >>= g).run s = (g (p.run s).1).run (p.run s).2 := by
  induction p generalizing s with
  | pure a => rfl
  | access f k ih => exact ih s (f s)

@[simp] theorem run_map (f : α → β) (p : Prog σ α) (s : σ) :
    (f <$> p).run s = (f (p.run s).1, (p.run s).2) := by
  rw [← bind_pure_comp, run_bind]
  rfl

@[simp] theorem run_read (r : σ → α) (s : σ) : (read r).run s = (r s, s) := rfl

@[simp] theorem run_modify (f : σ → σ) (s : σ) : (modify f).run s = ((), f s) := rfl

@[simp] theorem run_atomically (f : σ → α × σ) (s : σ) : (atomically f).run s = f s := rfl

@[simp] theorem run_ite (c : Prop) [Decidable c] (p q : Prog σ α) (s : σ) :
    (if c then p else q).run s = if c then p.run s else q.run s := by
  split <;> rfl

@[simp] theorem run_forEach_nil (f : α → Prog σ Unit) (s : σ) :
    (forEach f []).run s = ((), s) := rfl

@[simp] theorem run_forEach_cons (f : α → Prog σ Unit) (x : α) (xs : List α) (s : σ) :
    (forEach f (x :: xs)).run s = (forEach f xs).run ((f x).run s).2 := by
  rw [forEach, run_bind]

/-! ## Accesses that leave a part of the state alone -/

/-- No access of `p` changes `v`. -/
def Preserves (v : σ → τ) : Prog σ α → Prop
  | .pure _ => True
  | .access f k => ∀ s, v (f s) = v s ∧ (k s).Preserves v

variable {v : σ → τ}

@[simp] theorem preserves_pure (a : α) : (Pure.pure a : Prog σ α).Preserves v := trivial

theorem Preserves.bind {p : Prog σ α} (hp : p.Preserves v) {g : α → Prog σ β}
    (hg : ∀ a, (g a).Preserves v) : (p >>= g).Preserves v := by
  induction p with
  | pure a => exact hg a
  | access f k ih => exact fun s => ⟨(hp s).1, ih s (hp s).2⟩

theorem preserves_read (r : σ → α) : (read r).Preserves v := fun _ => ⟨rfl, trivial⟩

theorem preserves_modify {f : σ → σ} (hf : ∀ s, v (f s) = v s) : (modify f).Preserves v :=
  fun s => ⟨hf s, trivial⟩

theorem preserves_atomically {f : σ → α × σ} (hf : ∀ s, v (f s).2 = v s) :
    (atomically f).Preserves v :=
  fun s => ⟨hf s, trivial⟩

theorem preserves_read_bind {r : σ → α} {g : α → Prog σ β} (hg : ∀ a, (g a).Preserves v) :
    (read r >>= g).Preserves v := (preserves_read r).bind hg

theorem preserves_modify_bind {f : σ → σ} {g : Unit → Prog σ β} (hf : ∀ s, v (f s) = v s)
    (hg : ∀ a, (g a).Preserves v) : (modify f >>= g).Preserves v :=
  (preserves_modify hf).bind hg

theorem preserves_atomically_bind {f : σ → α × σ} {g : α → Prog σ β}
    (hf : ∀ s, v (f s).2 = v s) (hg : ∀ a, (g a).Preserves v) :
    (atomically f >>= g).Preserves v := (preserves_atomically hf).bind hg

theorem preserves_ite {c : Prop} [Decidable c] {p q : Prog σ α} (hp : p.Preserves v)
    (hq : q.Preserves v) : (if c then p else q).Preserves v := by
  split
  · exact hp
  · exact hq

theorem preserves_forEach {f : α → Prog σ Unit} {xs : List α}
    (hf : ∀ x ∈ xs, (f x).Preserves v) : (forEach f xs).Preserves v := by
  induction xs with
  | nil => trivial
  | cons x xs ih =>
    exact (hf x List.mem_cons_self).bind fun _ => ih fun y hy => hf y (List.mem_cons_of_mem _ hy)

/-- A program that preserves `v` preserves what depends on `v` only. -/
theorem Preserves.mono {τ' : Type} {w : σ → τ'} {p : Prog σ α} (hp : p.Preserves v)
    (h : ∀ s s', v s = v s' → w s = w s') : p.Preserves w := by
  induction p with
  | pure a => trivial
  | access f k ih => exact fun s => ⟨h _ _ (hp s).1, ih s (hp s).2⟩

/-- A sequential run of a program that preserves `v` keeps it. -/
theorem Preserves.run {p : Prog σ α} (hp : p.Preserves v) (s : σ) : v (p.run s).2 = v s := by
  induction p generalizing s with
  | pure a => rfl
  | access f k ih => exact (ih s (hp s).2 (f s)).trans (hp s).1

end Prog

end Concurrency
