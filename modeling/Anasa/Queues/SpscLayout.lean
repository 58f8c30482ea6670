import Mathlib.Tactic.Ring
import Anasa.Concurrency.BoundedFifo
import Anasa.Model.SpscQueue

/-!
# The bounded queue that an `SpscQueue` represents

Counting without wrap, element `n` of the queue lives in slot `n` modulo the capacity. With
`pushed` elements published and `popped` of them taken, the slots `popped, …, pushed - 1` hold the
queue and the rest are free; the counters of the code are these two numbers modulo `2 ^ 64`.
-/

namespace Anasa

open Concurrency

variable {T : Type}

/-! ## Counters and slots -/

/-- The slot of element `n`. -/
def slotOf (capacity : UInt64) (n : ℕ) : UInt64 := .ofNat (n % capacity.toNat)

theorem slotOf_toNat {capacity : UInt64} (h : 0 < capacity.toNat) (n : ℕ) :
    (slotOf capacity n).toNat = n % capacity.toNat := by
  have h₁ := Nat.mod_lt n h
  have h₂ := capacity.toNat_lt
  rw [slotOf, UInt64.toNat_ofNat', Nat.mod_eq_of_lt (by omega)]

/-- Fewer than `capacity` elements apart, slots differ. -/
theorem slotOf_ne {capacity : UInt64} {m n : ℕ} (h₀ : m < n) (h₁ : n < m + capacity.toNat) :
    slotOf capacity m ≠ slotOf capacity n := by
  intro h
  have hmod : n % capacity.toNat = m % capacity.toNat := by
    rw [← slotOf_toNat (by omega), ← slotOf_toNat (by omega), h]
  have hdvd := Nat.dvd_of_mod_eq_zero (Nat.sub_mod_eq_zero_of_mod_eq hmod)
  have := Nat.le_of_dvd (by omega) hdvd
  omega

theorem slotOf_add_capacity (capacity : UInt64) (n : ℕ) :
    slotOf capacity (n + capacity.toNat) = slotOf capacity n := by
  rw [slotOf, Nat.add_mod_right, slotOf]

theorem slotOf_zero (capacity : UInt64) : slotOf capacity 0 = 0 := by
  rw [slotOf, Nat.zero_mod]
  rfl

theorem nextSlot_slotOf {capacity : UInt64} (h : 0 < capacity.toNat) (n : ℕ) :
    SpscQueue.nextSlot capacity (slotOf capacity n) = slotOf capacity (n + 1) := by
  have hlt := Nat.mod_lt n h
  have hcap := capacity.toNat_lt
  have hsucc : (slotOf capacity n + 1).toNat = n % capacity.toNat + 1 := by
    rw [UInt64.toNat_add, slotOf_toNat h, UInt64.toNat_one]
    omega
  unfold SpscQueue.nextSlot
  by_cases hn : n % capacity.toNat + 1 = capacity.toNat
  · have heq : slotOf capacity n + 1 = capacity := UInt64.toNat_inj.mp (hsucc.trans hn)
    have hzero : (n + 1) % capacity.toNat = 0 := by
      rw [← Nat.mod_add_mod, hn, Nat.mod_self]
    rw [heq, if_pos (beq_self_eq_true _), slotOf, hzero]
    rfl
  · have hne : slotOf capacity n + 1 ≠ capacity := fun h' => hn (by rw [← hsucc, h'])
    rw [if_neg (by simpa using hne)]
    refine UInt64.toNat_inj.mp ?_
    rw [hsucc, slotOf_toNat h, ← Nat.mod_add_mod n, Nat.mod_eq_of_lt (a := _ + 1) (by omega)]

/-- The wrapped difference of two counters is the real one. -/
theorem counter_sub {m n : ℕ} (h₀ : m ≤ n) (h₁ : n - m < 2 ^ 64) :
    (UInt64.ofNat n - UInt64.ofNat m).toNat = n - m := by
  rw [UInt64.toNat_sub, UInt64.toNat_ofNat', UInt64.toNat_ofNat']
  omega

theorem isFull_iff {capacity : UInt64} {m n : ℕ} (h₀ : m ≤ n) (h₁ : n ≤ m + capacity.toNat) :
    SpscQueue.isFull capacity (.ofNat n) (.ofNat m) = true ↔ n - m = capacity.toNat := by
  have hcap := capacity.toNat_lt
  rw [SpscQueue.isFull, beq_iff_eq, ← UInt64.toNat_inj, counter_sub h₀ (by omega)]

theorem isEmpty_iff {capacity : UInt64} {m n : ℕ} (h₀ : m ≤ n) (h₁ : n ≤ m + capacity.toNat) :
    SpscQueue.isEmpty (.ofNat n) (.ofNat m) = true ↔ n = m := by
  have hcap := capacity.toNat_lt
  rw [SpscQueue.isEmpty, beq_iff_eq]
  constructor
  · intro h
    have hsub := counter_sub h₀ (by omega)
    rw [h, UInt64.sub_self, UInt64.toNat_zero] at hsub
    omega
  · rintro rfl
    rfl

/-! ## The queue represented -/

/-- The objects in the slots of the elements `first, …, first + count - 1`. -/
def SpscQueue.objects (q : SpscQueue T) (first count : ℕ) : List T :=
  (List.range count).map fun i => q.data (slotOf q.capacity (first + i))

/-- The queue with its free slots, in the order in which the producer will fill them. -/
def SpscState.fifo (s : SpscState T) : BoundedFifo T where
  contents := s.queue.objects s.history.popped.length s.size
  free := s.queue.objects s.history.pushed.length (s.queue.capacity.toNat - s.size)

namespace SpscQueue

variable (q : SpscQueue T) (first count : ℕ)

@[simp] theorem setSlot_data_self (slot : UInt64) (x : T) : (q.setSlot slot x).data slot = x :=
  Function.update_self ..

@[simp] theorem length_objects : (q.objects first count).length = count := by
  simp [objects]

@[simp] theorem objects_zero : q.objects first 0 = [] := rfl

theorem objects_succ : q.objects first (count + 1) =
    q.data (slotOf q.capacity first) :: q.objects (first + 1) count := by
  rw [objects, List.range_succ_eq_map, List.map_cons, List.map_map, objects]
  refine congrArg₂ List.cons rfl (List.map_congr_left fun i _ => ?_)
  simp only [Function.comp_apply]
  rw [show first + i.succ = first + 1 + i by omega]

theorem objects_concat : q.objects first (count + 1) =
    q.objects first count ++ [q.data (slotOf q.capacity (first + count))] := by
  rw [objects, List.range_succ, List.map_append, objects]
  rfl

variable {q first count}

/-- Writing into the slot of element `n` changes no object of other elements. -/
theorem objects_setSlot {n : ℕ} (x : T)
    (h : ∀ i < count, slotOf q.capacity (first + i) ≠ slotOf q.capacity n) :
    (q.setSlot (slotOf q.capacity n) x).objects first count = q.objects first count :=
  List.map_congr_left fun i hi => Function.update_of_ne (h i (List.mem_range.mp hi)) ..

end SpscQueue

end Anasa
