import Anasa.Queues.SpscConsumer
import Anasa.Queues.SpscProducer

/-!
# The queue of one producer and one consumer is a bounded queue

In every interleaving of one producer and one consumer, each access of either of them is a step of
the bounded queue `SpscState.fifo`, or none; and an operation that nobody interrupts is the
operation of `BoundedFifo` that the model of the engine uses.
-/

namespace Anasa

open Concurrency Contract

variable {T : Type}

/-! ## Contracts of the threads -/

/-- What a thread knows between two calls. -/
def spscIdle (capacity : UInt64) : SpscThread → SpscState T → Prop
  | .producer => ProducerRest capacity
  | .consumer => ConsumerRest capacity

theorem spscCall_triple {capacity : UInt64} (c : SpscCall T) :
    (spscContract capacity c.thread).Triple (spscIdle capacity c.thread) c.program
      fun _ => spscIdle capacity c.thread := by
  have hC := spscContract_stable (T := T) capacity .consumer
  cases c with
  | pushWith fill => exact pushing_triple fill
  | front =>
    refine reading_triple (fun before n => front_triple.bind hC look_triple) ?_
    exact SpscQueue.front_preserves.bind fun _ => Prog.preserves_read _
  | pop =>
    refine reading_triple (fun before n => pop_triple.bind hC fun popped =>
      triple_pure readEnded_kept fun _ _ h => h) ?_
    exact SpscQueue.pop_preserves.bind fun _ => Prog.preserves_pure _

/-- The contracts of the producer and the consumer. -/
def spscDiscipline (T : Type) (capacity : UInt64) : Discipline (spscMachine T) where
  inv := SpscInv capacity
  rely := spscRely
  guar := spscGuar
  idle := spscIdle capacity
  rely_refl := spscRely_refl
  rely_trans := spscRely_trans
  compatible hij _ _ hg := hg.1 _ (Ne.symm hij)
  idle_stable {i s s'} h hr hi := by
    cases i with
    | producer => exact producerRest_kept s s' h hr hi
    | consumer => exact consumerRest_kept s s' h hr hi
  call_safe c s hi h := spscCall_triple c s hi h

/-! ## Operations that nobody interrupts -/

section

variable {capacity : UInt64} {s : SpscState T} {α : Type}

/-- A fill run to its end writes its result into the slot. -/
theorem fillSlot_run (slot : UInt64) (fill : Prog T α) (s : SpscState T) :
    (SpscQueue.fillSlot slot fill).run s =
      ((fill.run (s.queue.data slot)).1,
        { s with queue := s.queue.setSlot slot (fill.run (s.queue.data slot)).2 }) := by
  induction fill generalizing s with
  | pure a =>
    have hself : s.queue.setSlot slot (s.queue.data slot) = s.queue := by
      rw [SpscQueue.setSlot, Function.update_eq_self]
    rw [SpscQueue.fillSlot, Prog.run_pure', Prog.run_pure', hself]
  | access f k ih =>
    have htwice (x y : T) : (s.queue.setSlot slot x).setSlot slot y = s.queue.setSlot slot y := by
      simp only [SpscQueue.setSlot, Function.update_idem]
    rw [SpscQueue.fillSlot, Prog.run_access, Prog.run_access, ih]
    simp only [SpscQueue.setSlot_data_self, htwice]

/-- A `pushWith` whose fill returns is the push of the bounded queue. -/
theorem pushWith_run_fifo (hi : SpscInv capacity s) (h : ProducerIdle capacity s)
    {fill : Prog T Bool} (hfill : ∀ x, (fill.run x).1 = true) :
    ((SpscQueue.pushWith fill).run s).1 =
        (if (s.fifo.pushWith fun x => (fill.run x).2).1 then .pushed else .full) ∧
      ((SpscQueue.pushWith fill).run s).2.fifo =
        (s.fifo.pushWith fun x => (fill.run x).2).2 := by
  have hiff := hi.isFull_iff
  have hlen := hi.pushed_length
  have hle := hi.size_le
  have hcap := hi.capacity_eq
  by_cases hfull : SpscQueue.isFull capacity s.queue.write s.queue.read = true
  · have hsize := hiff.mp hfull
    have hfree : s.fifo.free = [] := by
      rw [SpscState.fifo, hcap, show capacity.toNat - s.size = 0 by omega, SpscQueue.objects_zero]
    rw [BoundedFifo.pushWith_of_full hfree]
    simp only [SpscQueue.pushWith, Prog.run_bind, Prog.run_read, hcap, hfull, if_true,
      Prog.run_pure]
    exact ⟨rfl, trivial⟩
  · have hne := mt hiff.mpr hfull
    have hsize : s.size < capacity.toNat := by omega
    have hfilled : SpscInv capacity s.beginFill :=
      ⟨hcap, hi.write_eq, hi.read_eq, hi.pushed_eq, hi.size_le,
        fun slot hs => Option.mem_some.mp hs ▸ ⟨h.writeSlot, hsize⟩, hi.held, hi.pushes, hi.reads⟩
    have hset := fifo_setSlot hfilled hsize
      (fill.run (s.queue.data (slotOf capacity s.history.pushed.length))).2
    have hinv := hfilled.setSlot hsize
      (fill.run (s.queue.data (slotOf capacity s.history.pushed.length))).2
    have hpub := fifo_publish s.queue.write
      (fill.run (s.queue.data (slotOf capacity s.history.pushed.length))).2 hinv hsize
    rw [hset, BoundedFifo.pushWith_of_free rfl] at hpub
    rw [BoundedFifo.pushWith_of_free (hi.free_eq hsize)]
    have hdata : (s.beginFill.queue).data s.queue.writeSlot =
        s.queue.data (slotOf capacity s.history.pushed.length) := by
      rw [h.writeSlot]
      rfl
    simp only [SpscQueue.pushWith, Prog.run_bind, Prog.run_read, Prog.run_ite, hcap, hfull,
      Prog.run_modify, Prog.run_pure, Prog.run_atomically, fillSlot_run, hdata, hfill]
    refine ⟨rfl, ?_⟩
    simp only [h.writeSlot, SpscQueue.setSlot_data_self]
    exact hpub

theorem SpscInv.contents_of_empty (hi : SpscInv capacity s)
    (he : SpscQueue.isEmpty s.queue.write s.queue.read = true) : s.fifo.contents = [] := by
  have hlen := hi.pushed_length
  have hempty := hi.isEmpty_iff.mp he
  rw [SpscState.fifo, show s.size = 0 by omega, SpscQueue.objects_zero]

theorem SpscInv.size_pos (hi : SpscInv capacity s)
    (he : ¬SpscQueue.isEmpty s.queue.write s.queue.read = true) : 0 < s.size := by
  have hlen := hi.pushed_length
  have hempty := mt hi.isEmpty_iff.mpr he
  omega

/-- The object in the slot that `front` returns is the front of the bounded queue. -/
theorem front_run_fifo (hi : SpscInv capacity s) (h : ConsumerIdle capacity s) :
    (SpscQueue.front.run s).1.map s.queue.data = s.fifo.front ∧
      (SpscQueue.front.run s).2.fifo = s.fifo := by
  by_cases he : SpscQueue.isEmpty s.queue.write s.queue.read = true
  · simp only [SpscQueue.front, SpscQueue.loadCounters, Prog.run_bind, Prog.run_read, he, if_true,
      Prog.run_pure, BoundedFifo.front, hi.contents_of_empty he]
    exact ⟨rfl, trivial⟩
  · simp only [SpscQueue.front, SpscQueue.loadCounters, Prog.run_bind, Prog.run_read, he,
      Prog.run_pure, Prog.run_ite]
    rw [hi.front_eq (hi.size_pos he), ← h]
    exact ⟨rfl, rfl⟩

/-- `pop` is the pop of the bounded queue. -/
theorem pop_run_fifo (hi : SpscInv capacity s) :
    (SpscQueue.pop.run s).1 = s.fifo.front.isSome ∧ (SpscQueue.pop.run s).2.fifo = s.fifo.pop := by
  by_cases he : SpscQueue.isEmpty s.queue.write s.queue.read = true
  · simp only [SpscQueue.pop, SpscQueue.loadCounters, Prog.run_bind, Prog.run_read, he, if_true,
      Prog.run_pure, BoundedFifo.pop, BoundedFifo.front, hi.contents_of_empty he]
    exact ⟨rfl, trivial⟩
  · have hsize := hi.size_pos he
    have hrelease := fifo_release s.queue.read (s.queue.data s.queue.readSlot) hi hsize
    simp only [SpscQueue.pop, SpscQueue.loadCounters, Prog.run_bind, Prog.run_read, he,
      Prog.run_atomically, Prog.run_modify, Prog.run_pure, Prog.run_ite, hi.front_eq hsize]
    exact ⟨rfl, hrelease⟩

end

/-! ## Every interleaving -/

section

variable (capacity : SpscCapacity) (data : UInt64 → T)
  (moves : List (Move SpscThread (SpscCall T)))

theorem spscInv_make :
    SpscInv capacity.capacity (⟨.make capacity data, {}⟩ : SpscState T) where
  capacity_eq := rfl
  write_eq := rfl
  read_eq := rfl
  pushed_eq := rfl
  size_le := Nat.zero_le _
  filling := nofun
  held := nofun
  pushes := nofun
  reads := nofun

theorem spscDiscipline_sound :
    (spscDiscipline T capacity.capacity).Sound (spscRun capacity data moves) := by
  refine Discipline.Sound.run (Discipline.sound_idle (spscInv_make capacity data) fun i => ?_) moves
  cases i with
  | producer => exact ⟨⟨(slotOf_zero _).symm, rfl⟩, rfl⟩
  | consumer => exact ⟨(slotOf_zero _).symm, rfl⟩

/-- The pool of a queue agrees with a bounded queue. -/
structure RefinesFifo (capacity : UInt64) (p : Pool SpscThread (SpscState T)) : Prop where
  /-- The wrapped difference of the counters is the number of elements. -/
  size_eq : (p.state.queue.write - p.state.queue.read).toNat = p.state.fifo.contents.length
  size_le : p.state.fifo.contents.length ≤ capacity.toNat
  capacity_eq : p.state.fifo.capacity = capacity.toNat
  /-- What was popped is what was pushed first, in order. -/
  popped_prefix : p.state.history.pushed = p.state.history.popped ++ p.state.fifo.contents
  /-- Each `pushWith` returned, and changed, what a bounded queue does: nothing if its view was
  full, and otherwise what its fill made of the object in the next slot. -/
  pushes : ∀ r ∈ p.state.history.pushes, PushRecord.Valid capacity r
  /-- Each `front` and `pop` returned what a bounded queue does. -/
  reads : ∀ r ∈ p.state.history.reads, ReadRecord.Valid p.state.history.pushed r
  /-- The calls that a thread has made account for all that it has changed. -/
  pushLog : p.thread .producer = none →
    CallRecord.Leads ⟨0, 0, 0, []⟩ p.state.history.pushes p.state.producerView
  readLog : p.thread .consumer = none →
    CallRecord.Leads [] p.state.history.reads p.state.history.popped
  /-- The slot being filled holds no element. -/
  filling : ∀ slot ∈ p.state.history.filling, ∀ i < p.state.fifo.contents.length,
    slotOf capacity (p.state.history.popped.length + i) ≠ slot
  /-- The object that `front` returned is the oldest element and has not changed. -/
  held : ∀ h ∈ p.state.history.held, p.state.queue.data h.1 = h.2 ∧
    p.state.fifo.front = some h.2 ∧ p.state.history.filling ≠ some h.1
  /-- The slots of the code are those of the bounded queue. -/
  writeSlot : p.thread .producer = none →
    p.state.queue.writeSlot = slotOf capacity p.state.history.pushed.length
  readSlot : p.thread .consumer = none →
    p.state.queue.readSlot = slotOf capacity p.state.history.popped.length
  /-- A call that nobody interrupts is that of the bounded queue. -/
  whole_push : p.thread .producer = none → ∀ fill : Prog T Bool, (∀ x, (fill.run x).1 = true) →
    ((SpscQueue.pushWith fill).run p.state).1 =
        (if (p.state.fifo.pushWith fun x => (fill.run x).2).1 then .pushed else .full) ∧
      ((SpscQueue.pushWith fill).run p.state).2.fifo =
        (p.state.fifo.pushWith fun x => (fill.run x).2).2
  whole_front : p.thread .consumer = none →
    (SpscQueue.front.run p.state).1.map p.state.queue.data = p.state.fifo.front ∧
      (SpscQueue.front.run p.state).2.fifo = p.state.fifo
  whole_pop : p.thread .consumer = none →
    (SpscQueue.pop.run p.state).1 = p.state.fifo.front.isSome ∧
      (SpscQueue.pop.run p.state).2.fifo = p.state.fifo.pop
  /-- Each access is a step of the bounded queue, or none. -/
  step : ∀ i, p.state.fifo.Step (p.access i).state.fifo

/-- **Refinement.** In every interleaving of one producer and one consumer, however often the
counters wrap, an `SpscQueue` behaves as a bounded queue. -/
theorem spscRun_refinesFifo : RefinesFifo capacity.capacity (spscRun capacity data moves) := by
  have hsound := spscDiscipline_sound capacity data moves
  set p := spscRun capacity data moves
  have hi : SpscInv capacity.capacity p.state := hsound.inv
  have hlength : p.state.fifo.contents.length = p.state.size := SpscQueue.length_objects ..
  have hlen := hi.pushed_length
  have hle := hi.size_le
  have hcap := capacity.capacity.toNat_lt
  have hfilling : ∀ slot ∈ p.state.history.filling, ∀ i < p.state.fifo.contents.length,
      slotOf capacity.capacity (p.state.history.popped.length + i) ≠ slot := by
    intro slot hslot i hi'
    obtain ⟨rfl, hlt⟩ := hi.filling slot hslot
    exact slotOf_ne (by omega) (by omega)
  have hproducer : (spscRun capacity data moves).thread .producer = none →
      ProducerRest capacity.capacity p.state := fun ht => by
    have hidle := hsound.thread .producer
    rwa [ht] at hidle
  have hconsumer : (spscRun capacity data moves).thread .consumer = none →
      ConsumerRest capacity.capacity p.state := fun ht => by
    have hidle := hsound.thread .consumer
    rwa [ht] at hidle
  constructor
  case size_eq =>
    rw [hi.write_eq, hi.read_eq, counter_sub (by omega) (by omega)]
    omega
  case size_le => omega
  case capacity_eq =>
    rw [BoundedFifo.capacity, hlength, SpscState.fifo, hi.capacity_eq, SpscQueue.length_objects]
    omega
  case popped_prefix => exact hi.pushed_eq
  case pushes => exact hi.pushes
  case reads => exact hi.reads
  case pushLog => exact fun ht => (hproducer ht).2
  case readLog => exact fun ht => (hconsumer ht).2
  case filling => exact hfilling
  case held =>
    intro h hh
    obtain ⟨hslot, hfront⟩ := hi.held h hh
    have hsize : 0 < p.state.size := by
      rw [← hlength]
      exact List.length_pos_of_mem (List.mem_of_mem_head? hfront)
    refine ⟨?_, hfront, fun hf => ?_⟩
    · rw [hslot]
      exact Option.some.inj ((hi.front_eq hsize).symm.trans hfront)
    · refine hfilling _ hf 0 (by omega) ?_
      rw [Nat.add_zero, hslot]
  case writeSlot => exact fun ht => (hproducer ht).1.writeSlot
  case readSlot => exact fun ht => (hconsumer ht).1
  case whole_push => exact fun ht fill hfill => pushWith_run_fifo hi (hproducer ht).1 hfill
  case whole_front => exact fun ht => front_run_fifo hi (hconsumer ht).1
  case whole_pop => exact fun _ => pop_run_fifo hi
  case step =>
    intro i
    rcases hsound.access_guar i with h | h
    · rw [h]
      exact .stay _
    · exact h.2

end

end Anasa
