import Mathlib.Data.List.Infix

/-!
# Shortest prefixes

A greedy loop goes through candidates in order and takes one after the other until it has enough.
What it takes is the shortest prefix of the candidates that is enough, or all of them.
-/

namespace Concurrency

variable {α : Type} {enough : List α → Prop} {candidates taken : List α}

/-- The shortest prefix of the candidates that is enough, or all of them. -/
structure ShortestPrefix (enough : List α → Prop) (candidates taken : List α) : Prop where
  isPrefix : taken <+: candidates
  enough_or_all : enough taken ∨ taken = candidates
  minimal : ∀ l, l <+: taken → l ≠ taken → ¬enough l

namespace ShortestPrefix

/-- Nothing is taken if that is enough. -/
theorem of_enough (h : enough []) (candidates : List α) : ShortestPrefix enough candidates [] where
  isPrefix := List.nil_prefix
  enough_or_all := .inl h
  minimal _ hl hne := absurd (List.prefix_nil.mp hl) hne

/-- Nothing is left to take. -/
theorem nil (enough : List α → Prop) : ShortestPrefix enough [] [] where
  isPrefix := List.nil_prefix
  enough_or_all := .inr rfl
  minimal _ hl hne := absurd (List.prefix_nil.mp hl) hne

/-- One candidate is taken, and then the rest as far as needed. -/
theorem cons {a : α} (hno : ¬enough [])
    (h : ShortestPrefix (fun l => enough (a :: l)) candidates taken) :
    ShortestPrefix enough (a :: candidates) (a :: taken) where
  isPrefix := List.cons_prefix_cons.mpr ⟨rfl, h.isPrefix⟩
  enough_or_all := h.enough_or_all.imp id (congrArg (a :: ·))
  minimal l hl hne := by
    cases l with
    | nil => exact hno
    | cons b l =>
      obtain ⟨rfl, hprefix⟩ := List.cons_prefix_cons.mp hl
      exact h.minimal l hprefix fun heq => hne (congrArg (b :: ·) heq)

/-- If all candidates together are enough, so is what is taken. -/
theorem enough_of_all (h : ShortestPrefix enough candidates taken) (hall : enough candidates) :
    enough taken := h.enough_or_all.elim id fun heq => heq ▸ hall

end ShortestPrefix

end Concurrency
