import Mathlib.Data.List.Basic
import Mathlib.Logic.Function.Iterate

/-!
# A bounded first-in first-out queue with recycled slots

The queue owns `capacity` preconstructed slots. `contents` are the published elements in order,
`free` the slots in the order in which the producer will reuse them. A push fills the next free
slot in place, so what the fill does not write keeps its old value; a pop hands the front slot
back.
-/

namespace Concurrency

/-- A queue of preconstructed slots. -/
structure BoundedFifo (T : Type) where
  contents : List T
  free : List T

namespace BoundedFifo

variable {T : Type}

/-- A queue of `n` equal slots, all free. -/
def make (n : ℕ) (slot : T) : BoundedFifo T := ⟨[], List.replicate n slot⟩

/-- The number of slots. -/
def capacity (q : BoundedFifo T) : ℕ := q.contents.length + q.free.length

/-- Fill the next free slot and publish it; `false` if every slot is in use. -/
def pushWith (fill : T → T) (q : BoundedFifo T) : Bool × BoundedFifo T :=
  match q.free with
  | [] => (false, q)
  | slot :: rest => (true, ⟨q.contents ++ [fill slot], rest⟩)

/-- The oldest published element. -/
def front (q : BoundedFifo T) : Option T := q.contents.head?

/-- Hand the front slot back to the producer. -/
def pop (q : BoundedFifo T) : BoundedFifo T :=
  match q.contents with
  | [] => q
  | slot :: rest => ⟨rest, q.free ++ [slot]⟩

/-- Hand the front slots back as long as they satisfy `p`. -/
def popWhile (p : T → Bool) (q : BoundedFifo T) : BoundedFifo T :=
  ⟨q.contents.dropWhile p, q.free ++ q.contents.takeWhile p⟩

/-- Hand every slot back. -/
def reset (q : BoundedFifo T) : BoundedFifo T := ⟨[], q.contents ++ q.free⟩

@[simp] theorem capacity_make (n : ℕ) (slot : T) : (make n slot).capacity = n := by
  simp [make, capacity]

@[simp] theorem contents_make (n : ℕ) (slot : T) : (make n slot).contents = [] := rfl

@[simp] theorem capacity_pushWith (fill : T → T) (q : BoundedFifo T) :
    (q.pushWith fill).2.capacity = q.capacity := by
  unfold pushWith
  split
  · rfl
  · rename_i h
    simp only [capacity, h, List.length_append, List.length_cons, List.length_nil]
    omega

@[simp] theorem capacity_pop (q : BoundedFifo T) : q.pop.capacity = q.capacity := by
  unfold pop
  split
  · rfl
  · rename_i h
    simp only [capacity, h, List.length_append, List.length_cons, List.length_nil]
    omega

@[simp] theorem capacity_reset (q : BoundedFifo T) : q.reset.capacity = q.capacity := by
  simp [reset, capacity]

@[simp] theorem contents_reset (q : BoundedFifo T) : q.reset.contents = [] := rfl

theorem contents_pop (q : BoundedFifo T) : q.pop.contents = q.contents.tail := by
  unfold pop
  split <;> simp_all

/-- Pops hand the elements back in order. -/
theorem contents_iterate_pop (n : ℕ) (q : BoundedFifo T) :
    (Nat.iterate pop n q).contents = q.contents.drop n := by
  induction n generalizing q with
  | zero => rfl
  | succ n ih => rw [Function.iterate_succ_apply, ih, contents_pop, List.drop_tail]

@[simp] theorem contents_popWhile (p : T → Bool) (q : BoundedFifo T) :
    (q.popWhile p).contents = q.contents.dropWhile p := rfl

theorem popWhile_of_neg {p : T → Bool} {q : BoundedFifo T}
    (h : ∀ x ∈ q.contents.head?, p x = false) : q.popWhile p = q := by
  rcases q with ⟨- | ⟨x, rest⟩, free⟩
  · simp [popWhile]
  · have hx : p x = false := h x rfl
    simp [popWhile, hx]

theorem popWhile_of_pos {p : T → Bool} {q : BoundedFifo T} {x : T} {rest : List T}
    (h : q.contents = x :: rest) (hx : p x = true) : q.popWhile p = q.pop.popWhile p := by
  simp [popWhile, pop, h, hx]

@[simp] theorem capacity_popWhile (p : T → Bool) (q : BoundedFifo T) :
    (q.popWhile p).capacity = q.capacity := by
  have h := congrArg List.length (List.takeWhile_append_dropWhile (p := p) (l := q.contents))
  rw [List.length_append] at h
  simp only [popWhile, capacity, List.length_append]
  omega

theorem length_contents_le (q : BoundedFifo T) : q.contents.length ≤ q.capacity :=
  Nat.le_add_right _ _

/-- A push with a free slot appends the filled slot. -/
theorem pushWith_of_free {q : BoundedFifo T} {slot : T} {rest : List T}
    (h : q.free = slot :: rest) (fill : T → T) :
    q.pushWith fill = (true, ⟨q.contents ++ [fill slot], rest⟩) := by
  unfold pushWith; rw [h]

/-- A push without a free slot does nothing. -/
theorem pushWith_of_full {q : BoundedFifo T} (h : q.free = []) (fill : T → T) :
    q.pushWith fill = (false, q) := by
  unfold pushWith; rw [h]

/-- Every slot, published or free, satisfies `P`. -/
def All (P : T → Prop) (q : BoundedFifo T) : Prop :=
  (∀ x ∈ q.contents, P x) ∧ ∀ x ∈ q.free, P x

variable {P : T → Prop} {q : BoundedFifo T}

theorem all_make {n : ℕ} {slot : T} (h : P slot) : (make n slot).All P :=
  ⟨by simp, fun x hx => by rwa [List.eq_of_mem_replicate hx]⟩

theorem All.pop (h : q.All P) : q.pop.All P := by
  unfold BoundedFifo.pop
  split
  · exact h
  · rename_i slot rest hc
    rw [All, hc] at h
    refine ⟨fun x hx => h.1 x (List.mem_cons_of_mem _ hx), fun x hx => ?_⟩
    rcases List.mem_append.mp hx with hx | hx
    · exact h.2 x hx
    · exact h.1 x (by simpa using Or.inl (List.mem_singleton.mp hx))

theorem All.popWhile (h : q.All P) (p : T → Bool) : (q.popWhile p).All P := by
  refine ⟨fun x hx => h.1 x ((List.dropWhile_sublist p).subset hx), fun x hx => ?_⟩
  rcases List.mem_append.mp hx with hx | hx
  · exact h.2 x hx
  · exact h.1 x ((List.takeWhile_sublist p).subset hx)

theorem All.pushWith (h : q.All P) {fill : T → T} (hf : ∀ x, P x → P (fill x)) :
    (q.pushWith fill).2.All P := by
  unfold BoundedFifo.pushWith
  split
  · exact h
  · rename_i slot rest hfree
    rw [All, hfree] at h
    refine ⟨fun x hx => ?_, fun x hx => h.2 x (List.mem_cons_of_mem _ hx)⟩
    rcases List.mem_append.mp hx with hx | hx
    · exact h.1 x hx
    · rw [List.mem_singleton.mp hx]
      exact hf slot (h.2 slot List.mem_cons_self)

theorem All.reset (h : q.All P) : q.reset.All P :=
  ⟨by simp [BoundedFifo.reset], fun x hx => (List.mem_append.mp hx).elim (h.1 x) (h.2 x)⟩

/-! ## Steps

What a queue with slots filled in place does between two operations: the producer writes into the
next free slot, publishes it, or the consumer hands the front slot back. -/

/-- One step of a bounded queue, or none. -/
inductive Step : BoundedFifo T → BoundedFifo T → Prop where
  | stay (q : BoundedFifo T) : Step q q
  | write {q : BoundedFifo T} {slot : T} {rest : List T} (f : T → T) (h : q.free = slot :: rest) :
    Step q { q with free := f slot :: rest }
  | push {q : BoundedFifo T} {slot : T} {rest : List T} (h : q.free = slot :: rest) :
    Step q (q.pushWith id).2
  | pop {q : BoundedFifo T} {slot : T} (h : q.front = some slot) : Step q q.pop

end BoundedFifo

end Concurrency
