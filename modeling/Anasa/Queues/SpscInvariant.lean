import Anasa.Queues.SpscLayout

/-!
# The invariant of the queue of one producer and one consumer

What holds between any two accesses, and what the producer and the consumer rely on of each other.
The counters may have wrapped any number of times: the invariant ties them to the numbers of
elements pushed and popped, which do not wrap.
-/

namespace Anasa

open Concurrency Contract

variable {T α : Type}

/-! ## The invariant -/

/-- How a push ends that found room, and what it changed, if the fill ended so. -/
def ProducerView.filled (capacity : UInt64) (v : ProducerView T) (filled : Bool × T) :
    PushOutcome × ProducerView T :=
  if filled.1 then
    (.pushed, ⟨v.write + 1, SpscQueue.nextSlot capacity v.writeSlot, v.fills + 1,
      v.pushed ++ [filled.2]⟩)
  else (.threw, { v with fills := v.fills + 1 })

/-- A finished `pushWith` did what a bounded queue does: it loaded `_read` when `k` elements had
been popped, and if its view was not full it ran its fill, once and on the object in the next
slot. -/
def PushRecord.Valid (capacity : UInt64) (r : PushRecord T) : Prop :=
  ∃ k, r.othersBefore ≤ k ∧ k ≤ r.othersAfter ∧
    if SpscQueue.isFull capacity r.before.write (.ofNat k) then
      r.before.pushed.length = k + capacity.toNat ∧
        (r.returned.outcome, r.after) = (.full, r.before)
    else
      r.before.pushed.length < k + capacity.toNat ∧ (r.returned.outcome, r.after) =
        r.before.filled capacity (r.returned.fill.run r.returned.object)

/-- What `front` and `pop` return and do if `next` is the oldest element, if there is one. -/
def ReadReturn.Matches (next : Option T) (before after : List T) : ReadReturn T → Prop
  | .front found => found.map Prod.snd = next ∧ after = before
  | .pop popped => popped = next.isSome ∧ after = before ++ next.toList

/-- A finished `front` or `pop` did what a bounded queue does: it loaded `_write` when `m` elements
had been pushed, and found the next one, if it was among them. -/
def ReadRecord.Valid (pushed : List T) (r : ReadRecord T) : Prop :=
  ∃ m, r.othersBefore ≤ m ∧ m ≤ r.othersAfter ∧ r.othersAfter ≤ pushed.length ∧
    r.before.length ≤ m ∧ r.returned.Matches (pushed.take m)[r.before.length]? r.before r.after

theorem ReadRecord.Valid.mono {pushed pushed' : List T} {r : ReadRecord T}
    (h : ReadRecord.Valid pushed r) (hle : pushed <+: pushed') : ReadRecord.Valid pushed' r := by
  obtain ⟨m, hn, hm, hafter, hbefore, hmatches⟩ := h
  refine ⟨m, hn, hm, hafter.trans hle.length_le, hbefore, ?_⟩
  obtain ⟨rest, rfl⟩ := hle
  rwa [List.take_append_of_le_length (hm.trans hafter)]

/-- What holds between any two accesses. -/
structure SpscInv (capacity : UInt64) (s : SpscState T) : Prop where
  capacity_eq : s.queue.capacity = capacity
  write_eq : s.queue.write = .ofNat s.history.pushed.length
  read_eq : s.queue.read = .ofNat s.history.popped.length
  pushed_eq : s.history.pushed = s.history.popped ++ s.fifo.contents
  size_le : s.size ≤ capacity.toNat
  filling : ∀ slot ∈ s.history.filling,
    slot = slotOf capacity s.history.pushed.length ∧ s.size < capacity.toNat
  held : ∀ p ∈ s.history.held, p.1 = slotOf capacity s.history.popped.length ∧
    s.fifo.front = some p.2
  pushes : ∀ r ∈ s.history.pushes, r.Valid capacity
  reads : ∀ r ∈ s.history.reads, r.Valid s.history.pushed

namespace SpscInv

variable {capacity : UInt64} {s : SpscState T}

theorem pushed_length (h : SpscInv capacity s) :
    s.history.pushed.length = s.history.popped.length + s.size := by
  have := congrArg List.length h.pushed_eq
  simpa [SpscState.fifo] using this

theorem front_eq (h : SpscInv capacity s) (hs : 0 < s.size) :
    s.fifo.front = some (s.queue.data (slotOf capacity s.history.popped.length)) := by
  obtain ⟨n, hn⟩ : ∃ n, s.size = n + 1 := ⟨s.size - 1, by omega⟩
  rw [SpscState.fifo, BoundedFifo.front, hn, SpscQueue.objects_succ, h.capacity_eq]
  rfl

theorem free_eq (h : SpscInv capacity s) (hs : s.size < capacity.toNat) :
    s.fifo.free = s.queue.data (slotOf capacity s.history.pushed.length) ::
      s.queue.objects (s.history.pushed.length + 1) (capacity.toNat - s.size - 1) := by
  obtain ⟨n, hn⟩ : ∃ n, capacity.toNat - s.size = n + 1 := ⟨capacity.toNat - s.size - 1, by omega⟩
  rw [SpscState.fifo, h.capacity_eq, hn, SpscQueue.objects_succ, h.capacity_eq]
  rfl

/-- The oldest element is the first one pushed after those popped. -/
theorem getElem_popped (h : SpscInv capacity s) :
    s.history.pushed[s.history.popped.length]? = s.fifo.front := by
  rw [h.pushed_eq, List.getElem?_append_right (Nat.le_refl _), Nat.sub_self, BoundedFifo.front,
    List.head?_eq_getElem?]

theorem isEmpty_iff (h : SpscInv capacity s) :
    SpscQueue.isEmpty s.queue.write s.queue.read = true ↔
      s.history.pushed.length = s.history.popped.length := by
  have hlen := h.pushed_length
  have hle := h.size_le
  rw [h.write_eq, h.read_eq]
  exact Anasa.isEmpty_iff (by omega) (by omega : _ ≤ _ + capacity.toNat)

theorem isFull_iff (h : SpscInv capacity s) :
    SpscQueue.isFull capacity s.queue.write s.queue.read = true ↔
      s.history.pushed.length - s.history.popped.length = capacity.toNat := by
  have hlen := h.pushed_length
  have hle := h.size_le
  rw [h.write_eq, h.read_eq]
  exact Anasa.isFull_iff (by omega) (by omega)

end SpscInv

/-! ## Contracts -/

/-- What the producer alone changes. -/
def producerPart (s : SpscState T) :=
  (s.queue.capacity, s.queue.data, s.queue.write, s.queue.writeSlot, s.history.pushed,
    s.history.fills, s.history.filling, s.history.pushes)

/-- What the consumer alone changes. -/
def consumerPart (s : SpscState T) :=
  (s.queue.capacity, s.queue.read, s.queue.readSlot, s.history.popped, s.history.held,
    s.history.reads)

def spscRely : SpscThread → SpscState T → SpscState T → Prop
  | .producer, s, s' =>
    producerPart s' = producerPart s ∧ s.history.popped.length ≤ s'.history.popped.length
  | .consumer, s, s' =>
    consumerPart s' = consumerPart s ∧ s.history.pushed <+: s'.history.pushed

def spscGuar (i : SpscThread) (s s' : SpscState T) : Prop :=
  (∀ j, j ≠ i → spscRely j s s') ∧ s.fifo.Step s'.fifo

def spscContract (capacity : UInt64) (i : SpscThread) : Contract (SpscState T) :=
  ⟨SpscInv capacity, spscRely i, spscGuar i⟩

theorem spscRely_refl (i : SpscThread) (s : SpscState T) : spscRely i s s := by
  cases i with
  | producer => exact ⟨rfl, Nat.le_refl _⟩
  | consumer => exact ⟨rfl, List.prefix_rfl⟩

theorem spscRely_trans {i : SpscThread} {s₁ s₂ s₃ : SpscState T} (h : spscRely i s₁ s₂)
    (h' : spscRely i s₂ s₃) : spscRely i s₁ s₃ := by
  cases i with
  | producer => exact ⟨h'.1.trans h.1, Nat.le_trans h.2 h'.2⟩
  | consumer => exact ⟨h'.1.trans h.1, h.2.trans h'.2⟩

section

variable (capacity : UInt64)

theorem spscContract_stable (i : SpscThread) :
    (spscContract (T := T) capacity i).Stable :=
  ⟨fun {_ s} _ => spscRely_refl i s, spscRely_trans⟩

theorem spscGuar_refl (i : SpscThread) (s : SpscState T) : spscGuar i s s :=
  ⟨fun j _ => spscRely_refl j s, .stay _⟩

/-- The producer guarantees a step that leaves the consumer's part alone. -/
theorem spscGuar_producer {s s' : SpscState T} (h : consumerPart s' = consumerPart s)
    (hle : s.history.pushed <+: s'.history.pushed) (hstep : s.fifo.Step s'.fifo) :
    spscGuar .producer s s' := by
  refine ⟨fun j hj => ?_, hstep⟩
  cases j with
  | producer => exact absurd rfl hj
  | consumer => exact ⟨h, hle⟩

/-- The consumer guarantees a step that leaves the producer's part alone. -/
theorem spscGuar_consumer {s s' : SpscState T} (h : producerPart s' = producerPart s)
    (hle : s.history.popped.length ≤ s'.history.popped.length) (hstep : s.fifo.Step s'.fifo) :
    spscGuar .consumer s s' := by
  refine ⟨fun j hj => ?_, hstep⟩
  cases j with
  | producer => exact ⟨h, hle⟩
  | consumer => exact absurd rfl hj

end

end Anasa
