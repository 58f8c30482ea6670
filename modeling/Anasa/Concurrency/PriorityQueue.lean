import Mathlib.Data.List.Basic

/-!
# Priority queues over a precedence test

`lower x y` says that `x` has lower precedence than `y`, the convention of `std::priority_queue`.
A queue is the list of its elements with the highest precedence first, so the top is the head,
popping drops it, and `push` inserts before the first element that does not precede the new one.
-/

namespace Concurrency

namespace PriorityQueue

variable {T : Type} (lower : T → T → Bool)

/-- Insert an element behind those that precede it. -/
def push (x : T) : List T → List T
  | [] => [x]
  | y :: ys => if lower x y then y :: push x ys else x :: y :: ys

/-- Insert several elements, one after the other. -/
def pushAll (xs : List T) (q : List T) : List T := xs.foldl (fun q x => push lower x q) q

theorem push_perm (x : T) (q : List T) : (push lower x q).Perm (x :: q) := by
  induction q with
  | nil => exact List.Perm.refl _
  | cons y ys ih =>
    unfold push
    split
    · exact (ih.cons y).trans (List.Perm.swap x y ys)
    · exact List.Perm.refl _

@[simp] theorem mem_push {x y : T} {q : List T} : y ∈ push lower x q ↔ y = x ∨ y ∈ q := by
  rw [(push_perm lower x q).mem_iff, List.mem_cons]

@[simp] theorem pushAll_nil (q : List T) : pushAll lower [] q = q := rfl

@[simp] theorem pushAll_cons (x : T) (xs q : List T) :
    pushAll lower (x :: xs) q = pushAll lower xs (push lower x q) := rfl

theorem pushAll_perm (xs q : List T) : (pushAll lower xs q).Perm (xs ++ q) := by
  induction xs generalizing q with
  | nil => exact List.Perm.refl _
  | cons x xs ih =>
    exact (ih (push lower x q)).trans
      (((push_perm lower x q).append_left xs).trans List.perm_middle)

@[simp] theorem mem_pushAll {xs q : List T} {y : T} :
    y ∈ pushAll lower xs q ↔ y ∈ xs ∨ y ∈ q := by
  rw [(pushAll_perm lower xs q).mem_iff, List.mem_append]

@[simp] theorem length_pushAll (xs q : List T) :
    (pushAll lower xs q).length = xs.length + q.length := by
  rw [(pushAll_perm lower xs q).length_eq, List.length_append]

/-- An element that all others precede goes to the end. -/
theorem push_of_lower {x : T} {q : List T} (h : ∀ y ∈ q, lower x y = true) :
    push lower x q = q ++ [x] := by
  induction q with
  | nil => rfl
  | cons y ys ih =>
    unfold push
    rw [if_pos (h y List.mem_cons_self), ih fun z hz => h z (List.mem_cons_of_mem _ hz)]
    rfl

/-- Elements that come later and later go to the end in their order. -/
theorem pushAll_of_lower {xs q : List T} (hxs : xs.Pairwise fun x y => lower y x = true)
    (hq : ∀ x ∈ xs, ∀ y ∈ q, lower x y = true) : pushAll lower xs q = q ++ xs := by
  induction xs generalizing q with
  | nil => rw [pushAll_nil, List.append_nil]
  | cons x xs ih =>
    obtain ⟨hx, htail⟩ := List.pairwise_cons.mp hxs
    rw [pushAll_cons, push_of_lower lower (hq x List.mem_cons_self), ih htail, List.append_assoc]
    · rfl
    · intro z hz y hy
      rcases List.mem_append.mp hy with hy | hy
      · exact hq z (List.mem_cons_of_mem _ hz) y hy
      · rw [List.mem_singleton.mp hy]
        exact hx z hz

/-! ## Order -/

/-- `std::priority_queue` asks for a strict weak order. -/
structure StrictWeakOrder : Prop where
  asymm : ∀ {x y}, lower x y = true → lower y x = false
  trans_ge : ∀ {x y z}, lower x y = false → lower y z = false → lower x z = false

/-- No element has lower precedence than one behind it. -/
def Sorted (q : List T) : Prop := q.Pairwise fun x y => lower x y = false

variable {lower}

theorem sorted_nil : Sorted lower [] := List.Pairwise.nil

theorem Sorted.tail {q : List T} (h : Sorted lower q) : Sorted lower q.tail :=
  List.Pairwise.sublist (List.tail_sublist q) h

/-- The top precedes the rest. -/
theorem Sorted.head {x : T} {q : List T} (h : Sorted lower (x :: q)) :
    ∀ y ∈ q, lower x y = false := (List.pairwise_cons.mp h).1

theorem Sorted.push (ho : StrictWeakOrder lower) (x : T) {q : List T} (h : Sorted lower q) :
    Sorted lower (push lower x q) := by
  induction q with
  | nil => exact List.pairwise_singleton _ _
  | cons y ys ih =>
    obtain ⟨hy, hys⟩ := List.pairwise_cons.mp h
    unfold PriorityQueue.push
    split
    · rename_i hlower
      refine List.pairwise_cons.mpr ⟨fun z hz => ?_, ih hys⟩
      rcases (mem_push lower).mp hz with rfl | hz
      · exact ho.asymm hlower
      · exact hy z hz
    · rename_i hnot
      have hxy : lower x y = false := by simpa using hnot
      refine List.pairwise_cons.mpr ⟨fun z hz => ?_, h⟩
      rcases List.mem_cons.mp hz with rfl | hz
      · exact hxy
      · exact ho.trans_ge hxy (hy z hz)

theorem Sorted.pushAll (ho : StrictWeakOrder lower) (xs : List T) {q : List T}
    (h : Sorted lower q) : Sorted lower (pushAll lower xs q) := by
  induction xs generalizing q with
  | nil => exact h
  | cons x xs ih => exact ih (h.push ho x)

end PriorityQueue

end Concurrency
