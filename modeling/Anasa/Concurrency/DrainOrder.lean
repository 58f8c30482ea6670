import Anasa.Concurrency.PriorityQueue

/-!
# The order in which a heap is drained

A heap keeps its elements in an order of its own and pops an element of highest precedence.
`Runs` says what pushes and pops may do to it. If the precedence tells the elements apart, a heap
is drained in one order only, whatever was pushed and popped before (`Drains.unique`). A list that
is kept sorted by `push` is such a heap.
-/

namespace Concurrency

namespace PriorityQueue

variable {T : Type}

inductive Operation (T : Type) where
  | push (x : T)
  | pop

/-- From a heap with the elements `q`, the operations may pop the elements `popped`, in order, and
leave the elements `q'`. -/
inductive Runs (lower : T → T → Bool) : List T → List (Operation T) → List T → List T → Prop where
  | nil {q : List T} : Runs lower q [] [] q
  | push {q q₁ q' popped : List T} {x : T} {ops : List (Operation T)} (elements : q₁.Perm (x :: q))
    (rest : Runs lower q₁ ops popped q') : Runs lower q (.push x :: ops) popped q'
  | pop {q q₁ q' popped : List T} {x : T} {ops : List (Operation T)} (elements : q.Perm (x :: q₁))
    (top : ∀ y ∈ q₁, lower x y = false) (rest : Runs lower q₁ ops popped q') :
    Runs lower q (.pop :: ops) (x :: popped) q'

/-- So many pops. -/
def pops (n : ℕ) : List (Operation T) := List.replicate n .pop

/-- Popping until nothing is left may return these elements, in order. -/
def Drains (lower : T → T → Bool) (q drained : List T) : Prop :=
  Runs lower q (pops drained.length) drained []

variable {lower : T → T → Bool}

theorem Runs.append {q q₁ q' popped popped' : List T} {ops ops' : List (Operation T)}
    (h : Runs lower q ops popped q₁) (h' : Runs lower q₁ ops' popped' q') :
    Runs lower q (ops ++ ops') (popped ++ popped') q' := by
  induction h with
  | nil => exact h'
  | push elements _ ih => exact .push elements (ih h')
  | pop elements top _ ih => exact .pop elements top (ih h')

/-- Pops return elements in order of precedence, none of which has lower precedence than what they
leave. -/
theorem Runs.of_pops {n : ℕ} {q popped q' : List T} (h : Runs lower q (pops n) popped q') :
    q.Perm (popped ++ q') ∧ popped.length = n ∧ Sorted lower popped ∧
      ∀ x ∈ popped, ∀ y ∈ q', lower x y = false := by
  induction n generalizing q popped with
  | zero =>
    cases h
    exact ⟨List.Perm.refl _, rfl, sorted_nil, fun x hx => absurd hx List.not_mem_nil⟩
  | succ n ih =>
    obtain _ | _ | ⟨elements, top, rest⟩ := h
    obtain ⟨hperm, hlength, hsorted, hleft⟩ := ih rest
    refine ⟨elements.trans (hperm.cons _), congrArg (· + 1) hlength,
      List.pairwise_cons.mpr ⟨fun y hy => ?_, hsorted⟩, fun x hx y hy => ?_⟩
    · exact top y (hperm.mem_iff.mpr (List.mem_append_left _ hy))
    · rcases List.mem_cons.mp hx with rfl | hx
      · exact top y (hperm.mem_iff.mpr (List.mem_append_right _ hy))
      · exact hleft x hx y hy

theorem Drains.perm {q drained : List T} (h : Drains lower q drained) : q.Perm drained := by
  have hperm := h.of_pops.1
  rwa [List.append_nil] at hperm

theorem Drains.sorted {q drained : List T} (h : Drains lower q drained) : Sorted lower drained :=
  h.of_pops.2.2.1

/-- A drain in two parts. -/
theorem Drains.append {n : ℕ} {q popped q₁ drained : List T}
    (h : Runs lower q (pops n) popped q₁) (h' : Drains lower q₁ drained) :
    Drains lower q (popped ++ drained) := by
  have hruns := h.append h'
  rw [pops, pops, ← List.replicate_add, ← h.of_pops.2.1, ← List.length_append] at hruns
  exact hruns

/-- The precedence tells the elements apart. -/
def Separates (lower : T → T → Bool) (q : List T) : Prop :=
  ∀ x ∈ q, ∀ y ∈ q, lower x y = false → lower y x = false → x = y

/-- **One drain order.** Two heaps with the same elements are drained in the same order. -/
theorem Drains.unique {q q' drained drained' : List T} (hq : Separates lower q)
    (hperm : q.Perm q') (h : Drains lower q drained) (h' : Drains lower q' drained') :
    drained = drained' := by
  have hsame : drained.Perm drained' := h.perm.symm.trans (hperm.trans h'.perm)
  refine List.Perm.eq_of_pairwise (fun x y hx hy hxy hyx => ?_) h.sorted h'.sorted hsame
  exact hq x (h.perm.mem_iff.mpr hx) y (hperm.mem_iff.mpr (h'.perm.mem_iff.mpr hy)) hxy hyx

/-! ## Sorted lists -/

/-- The head of a sorted list may be popped. -/
theorem Sorted.runs_pop {x : T} {q : List T} (h : Sorted lower (x :: q)) :
    Runs lower (x :: q) [.pop] [x] q :=
  .pop (List.Perm.refl _) h.head .nil

/-- A sorted list is drained from its head. -/
theorem Sorted.drains {q : List T} (h : Sorted lower q) : Drains lower q q := by
  induction q with
  | nil => exact .nil
  | cons x q ih => exact h.runs_pop.append (ih h.tail)

/-- A heap may keep its elements in any order. -/
theorem Drains.of_perm {q q' drained : List T} (h : Drains lower q drained) (hperm : q'.Perm q) :
    Drains lower q' drained := by
  cases drained with
  | nil =>
    rw [List.perm_nil.mp (hperm.trans h.perm)]
    exact .nil
  | cons x drained =>
    obtain _ | _ | ⟨elements, top, rest⟩ := h
    exact .pop (hperm.trans elements) top rest

/-- Every heap can be drained. -/
theorem exists_drains (ho : StrictWeakOrder lower) (q : List T) :
    ∃ drained, Drains lower q drained := by
  have hperm := pushAll_perm lower q []
  rw [List.append_nil] at hperm
  exact ⟨pushAll lower q [], (sorted_nil.pushAll ho q).drains.of_perm hperm.symm⟩

end PriorityQueue

end Concurrency
