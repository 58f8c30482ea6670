import Anasa.Model.SchedulingPolicy

/-!
# The policies are orders

Both policies are strict weak orders, so the queue of pending tiles is sorted by them. The
priority policy compares a lexicographic key.
-/

namespace Anasa

open Concurrency PriorityQueue

theorem RenderPriority.toInt_inj {a b : RenderPriority} : a.toInt = b.toInt ↔ a = b := by
  cases a <;> cases b <;> simp [RenderPriority.toInt]

/-- The deadline that the priority policy compares: that of an urgent tile. -/
def RenderClassification.comparedDeadline (c : RenderClassification) : Int :=
  if c.priority = .urgent then c.deadlineFrame else 0

/-- The priority policy is a lexicographic order. -/
theorem PrioritySchedulingPolicy.hasLowerPrecedence_iff (a b : PendingRenderTile) :
    hasLowerPrecedence a b = true ↔
      b.classification.priority.toInt < a.classification.priority.toInt ∨
      a.classification.priority.toInt = b.classification.priority.toInt ∧
        (b.classification.comparedDeadline < a.classification.comparedDeadline ∨
        a.classification.comparedDeadline = b.classification.comparedDeadline ∧
          (b.classification.distanceInFrames < a.classification.distanceInFrames ∨
          a.classification.distanceInFrames = b.classification.distanceInFrames ∧
            b.sequence < a.sequence)) := by
  unfold hasLowerPrecedence RenderClassification.comparedDeadline
  by_cases hp : a.classification.priority = b.classification.priority
  · rw [if_neg (not_not.mpr hp), hp]
    by_cases hu : b.classification.priority = .urgent
    · simp only [hu, true_and, if_true, lt_irrefl, false_or]
      split
      · rw [decide_eq_true_eq]
        omega
      · split
        · rw [decide_eq_true_eq]
          omega
        · rw [decide_eq_true_eq]
          omega
    · simp only [hu, false_and, if_false, lt_irrefl, false_or, true_and]
      split
      · rw [decide_eq_true_eq]
        omega
      · rw [decide_eq_true_eq]
        omega
  · rw [if_pos hp, decide_eq_true_eq]
    have hne := mt RenderPriority.toInt_inj.mp hp
    omega

theorem PrioritySchedulingPolicy.hasLowerPrecedence_eq_false (a b : PendingRenderTile) :
    hasLowerPrecedence a b = false ↔
      a.classification.priority.toInt < b.classification.priority.toInt ∨
      a.classification.priority.toInt = b.classification.priority.toInt ∧
        (a.classification.comparedDeadline < b.classification.comparedDeadline ∨
        a.classification.comparedDeadline = b.classification.comparedDeadline ∧
          (a.classification.distanceInFrames < b.classification.distanceInFrames ∨
          a.classification.distanceInFrames = b.classification.distanceInFrames ∧
            a.sequence ≤ b.sequence)) := by
  rw [← Bool.not_eq_true, hasLowerPrecedence_iff]
  omega

theorem priority_strictWeakOrder :
    StrictWeakOrder PrioritySchedulingPolicy.hasLowerPrecedence where
  asymm {x y} h := by
    rw [PrioritySchedulingPolicy.hasLowerPrecedence_iff] at h
    rw [PrioritySchedulingPolicy.hasLowerPrecedence_eq_false]
    omega
  trans_ge {x y z} h h' := by
    rw [PrioritySchedulingPolicy.hasLowerPrecedence_eq_false] at h h' ⊢
    omega

theorem fifo_strictWeakOrder : StrictWeakOrder FifoSchedulingPolicy.hasLowerPrecedence where
  asymm {x y} h := by
    simp only [FifoSchedulingPolicy.hasLowerPrecedence, decide_eq_true_eq] at h
    simp only [FifoSchedulingPolicy.hasLowerPrecedence, decide_eq_false_iff_not]
    omega
  trans_ge {x y z} h h' := by
    simp only [FifoSchedulingPolicy.hasLowerPrecedence, decide_eq_false_iff_not] at h h' ⊢
    omega

theorem createSchedulingPolicy_strictWeakOrder (policy : SchedulingPolicyType) :
    StrictWeakOrder (createSchedulingPolicy policy) := by
  cases policy with
  | fifo => exact fifo_strictWeakOrder
  | priority => exact priority_strictWeakOrder

end Anasa
