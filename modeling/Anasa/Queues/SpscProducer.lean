import Anasa.Queues.SpscInvariant

/-!
# The producer of the queue

`pushWith` obeys the contract of the producer: a fill writes into the next free slot only, and the
counter store publishes that slot.
-/

namespace Anasa

open Concurrency Contract

variable {T α : Type}

/-! ## What the producer knows -/

/-- What the producer knows between two pushes. -/
structure ProducerIdle (capacity : UInt64) (s : SpscState T) : Prop where
  writeSlot : s.queue.writeSlot = slotOf capacity s.history.pushed.length
  filling : s.history.filling = none

/-- The producer began a push with the given view, after `n` elements had been popped. -/
structure PushBegun (capacity : UInt64) (before : ProducerView T) (n : ℕ) (s : SpscState T) :
    Prop where
  idle : ProducerIdle capacity s
  before_eq : before = s.producerView
  popped_ge : n ≤ s.history.popped.length

/-- The producer has looked at the object in the next slot. -/
structure PushLoading (capacity : UInt64) (before : ProducerView T) (n : ℕ) (object : T)
    (s : SpscState T) : Prop extends PushBegun capacity before n s where
  object_eq : object = s.queue.data s.queue.writeSlot

/-- What the producer knows once it has loaded both counters, the second when `k` elements had been
popped. -/
structure PushView (capacity : UInt64) (before : ProducerView T) (n : ℕ) (object : T)
    (read : UInt64) (k : ℕ) (s : SpscState T) : Prop
    extends PushLoading capacity before n object s where
  read_eq : read = .ofNat k
  view_ge : n ≤ k
  view_le : k ≤ s.history.popped.length
  full : SpscQueue.isFull capacity before.write (.ofNat k) = true →
    before.pushed.length = k + capacity.toNat
  room : ¬SpscQueue.isFull capacity before.write (.ofNat k) = true →
    before.pushed.length < k + capacity.toNat

/-- A push has room since `k` elements had been popped. -/
structure PushRoom (capacity : UInt64) (before : ProducerView T) (n k : ℕ) (s : SpscState T) :
    Prop where
  view_ge : n ≤ k
  view_le : k ≤ s.history.popped.length
  not_full : ¬SpscQueue.isFull capacity before.write (.ofNat k) = true
  room : before.pushed.length < k + capacity.toNat

/-- The producer fills the next free slot. -/
structure PushFilling (capacity : UInt64) (before : ProducerView T) (n k : ℕ) (slot : UInt64)
    (s : SpscState T) : Prop extends PushRoom capacity before n k s where
  writeSlot : s.queue.writeSlot = slotOf capacity s.history.pushed.length
  slot_eq : slot = slotOf capacity s.history.pushed.length
  filling : s.history.filling = some slot
  view : s.producerView = { before with fills := before.fills + 1 }

/-- The slot is filled and the producer has advanced to the next one. -/
structure PushFilled (capacity : UInt64) (before : ProducerView T) (n k : ℕ) (content : T)
    (s : SpscState T) : Prop extends PushRoom capacity before n k s where
  writeSlot : s.queue.writeSlot = slotOf capacity (s.history.pushed.length + 1)
  content_eq : s.queue.data (slotOf capacity s.history.pushed.length) = content
  view : s.producerView =
    { before with
      writeSlot := SpscQueue.nextSlot capacity before.writeSlot, fills := before.fills + 1 }

/-- A push has ended, and was that of a bounded queue. -/
structure PushEnded (capacity : UInt64) (before : ProducerView T) (n : ℕ) (returned : PushReturn T)
    (s : SpscState T) : Prop where
  writeSlot : s.queue.writeSlot = slotOf capacity s.history.pushed.length
  valid : PushRecord.Valid capacity
    ⟨returned, before, s.producerView, n, s.history.popped.length⟩

/-! ## Knowledge that the consumer keeps -/

section

variable {capacity : UInt64} {s s' : SpscState T} {write : UInt64} {before : ProducerView T}
  {n k : ℕ} {object content : T} {slot : UInt64}

theorem pushBegun_kept :
    (spscContract (T := T) capacity .producer).Kept (PushBegun capacity before n) := by
  intro s s' k ⟨h, hle⟩ _
  have hpopped := k.popped_ge.trans hle
  obtain ⟨⟨⟩, ⟨⟩⟩ := s
  obtain ⟨⟨⟩, ⟨⟩⟩ := s'
  cases h
  exact ⟨⟨k.idle.writeSlot, k.idle.filling⟩, k.before_eq, hpopped⟩

theorem pushLoading_kept :
    (spscContract capacity .producer).Kept (PushLoading capacity before n object) := by
  intro s s' k hr hi
  have hbegun := pushBegun_kept s s' k.toPushBegun hr hi
  obtain ⟨⟨⟩, ⟨⟩⟩ := s
  obtain ⟨⟨⟩, ⟨⟩⟩ := s'
  cases hr.1
  exact ⟨hbegun, k.object_eq⟩

theorem pushView_kept {read : UInt64} :
    (spscContract capacity .producer).Kept (PushView capacity before n object read k) := by
  intro s s' h hr hi
  exact ⟨pushLoading_kept s s' h.toPushLoading hr hi, h.read_eq, h.view_ge, h.view_le.trans hr.2,
    h.full, h.room⟩

theorem pushRoom_kept :
    (spscContract (T := T) capacity .producer).Kept (PushRoom capacity before n k) :=
  fun _ _ h hr _ => ⟨h.view_ge, h.view_le.trans hr.2, h.not_full, h.room⟩

theorem pushFilling_kept :
    (spscContract (T := T) capacity .producer).Kept (PushFilling capacity before n k slot) := by
  intro s s' h hr hi
  have hroom := pushRoom_kept s s' h.toPushRoom hr hi
  obtain ⟨⟨⟩, ⟨⟩⟩ := s
  obtain ⟨⟨⟩, ⟨⟩⟩ := s'
  cases hr.1
  exact ⟨hroom, h.writeSlot, h.slot_eq, h.filling, h.view⟩

/-- What the producer has written into the slot stays there. -/
theorem pushContent_kept (f : T → Prop) : (spscContract (T := T) capacity .producer).Kept
    fun s => PushFilling capacity before n k slot s ∧ f (s.queue.data slot) := by
  refine pushFilling_kept.and ?_
  rintro ⟨⟨⟩, ⟨⟩⟩ ⟨⟨⟩, ⟨⟩⟩ h ⟨hpart, -⟩ -
  cases hpart
  exact h

theorem pushFilled_kept :
    (spscContract capacity .producer).Kept (PushFilled capacity before n k content) := by
  intro s s' h hr hi
  have hroom := pushRoom_kept s s' h.toPushRoom hr hi
  obtain ⟨⟨⟩, ⟨⟩⟩ := s
  obtain ⟨⟨⟩, ⟨⟩⟩ := s'
  cases hr.1
  exact ⟨hroom, h.writeSlot, h.content_eq, h.view⟩

theorem pushEnded_kept {returned : PushReturn T} :
    (spscContract capacity .producer).Kept (PushEnded capacity before n returned) := by
  rintro s s' ⟨hslot, m, hge, hle, hvalid⟩ hr _
  have hle' := hle.trans hr.2
  obtain ⟨⟨⟩, ⟨⟩⟩ := s
  obtain ⟨⟨⟩, ⟨⟩⟩ := s'
  cases hr.1
  exact ⟨hslot, m, hge, hle', hvalid⟩

/-- The queue has room as long as the push is under way. -/
theorem PushRoom.size_lt (h : PushRoom capacity before n k s) (hi : SpscInv capacity s)
    (hpushed : s.history.pushed = before.pushed) : s.size < capacity.toNat := by
  have hroom := h.room
  have hle := h.view_le
  have hlen := hi.pushed_length
  rw [hpushed] at hlen
  omega

theorem PushFilling.size_lt (h : PushFilling capacity before n k slot s)
    (hi : SpscInv capacity s) : s.size < capacity.toNat :=
  h.toPushRoom.size_lt hi (congrArg ProducerView.pushed h.view)

theorem PushFilled.size_lt (h : PushFilled capacity before n k content s)
    (hi : SpscInv capacity s) : s.size < capacity.toNat :=
  h.toPushRoom.size_lt hi (congrArg ProducerView.pushed h.view)

/-! ## Pushing -/

/-- A fill writes into the next free slot only. -/
theorem fifo_setSlot (h : SpscInv capacity s) (hs : s.size < capacity.toNat) (x : T) :
    SpscState.fifo
      { s with queue := s.queue.setSlot (slotOf capacity s.history.pushed.length) x } =
      { s.fifo with
        free := x ::
          s.queue.objects (s.history.pushed.length + 1) (capacity.toNat - s.size - 1) } := by
  obtain ⟨n, hn⟩ : ∃ n, capacity.toNat - s.size = n + 1 := ⟨capacity.toNat - s.size - 1, by omega⟩
  have hlen := h.pushed_length
  have hcap := h.capacity_eq
  subst hcap
  have hcontents : (s.queue.setSlot (slotOf s.queue.capacity s.history.pushed.length) x).objects
      s.history.popped.length s.size = s.queue.objects s.history.popped.length s.size :=
    SpscQueue.objects_setSlot x fun i hi => slotOf_ne (by omega) (by omega)
  have hfree : (s.queue.setSlot (slotOf s.queue.capacity s.history.pushed.length) x).objects
      (s.history.pushed.length + 1) n = s.queue.objects (s.history.pushed.length + 1) n :=
    SpscQueue.objects_setSlot x fun i hi => (slotOf_ne (by omega) (by omega)).symm
  refine congrArg₂ BoundedFifo.mk hcontents ?_
  change SpscQueue.objects _ _ (s.queue.capacity.toNat - s.size) = _
  rw [hn, SpscQueue.objects_succ, hfree, Nat.add_sub_cancel]
  exact congrArg (· :: _) (Function.update_self ..)

/-- A write into the slot being filled. -/
theorem SpscInv.setSlot (h : SpscInv capacity s) (hs : s.size < capacity.toNat) (x : T) :
    SpscInv capacity
      { s with queue := s.queue.setSlot (slotOf capacity s.history.pushed.length) x } := by
  have hfifo := fifo_setSlot h hs x
  have hcontents := congrArg BoundedFifo.contents hfifo
  exact {
    capacity_eq := h.capacity_eq
    write_eq := h.write_eq
    read_eq := h.read_eq
    pushed_eq := h.pushed_eq.trans (congrArg (s.history.popped ++ ·) hcontents.symm)
    size_le := h.size_le
    filling := h.filling
    held := fun p hp => ⟨(h.held p hp).1, (congrArg List.head? hcontents).trans (h.held p hp).2⟩
    pushes := h.pushes
    reads := h.reads }

/-- The accesses of a fill: what is left of it has the result of the whole fill. -/
theorem fillSlot_triple (fill : Prog T α) (filled : α × T) :
    (spscContract capacity .producer).Triple
      (fun s => PushFilling capacity before n k slot s ∧ fill.run (s.queue.data slot) = filled)
      (SpscQueue.fillSlot slot fill)
      fun returned s => PushFilling capacity before n k slot s ∧
        (returned, s.queue.data slot) = filled := by
  induction fill with
  | pure a => exact triple_pure (pushContent_kept fun x => (a, x) = filled) fun _ _ h => h
  | access f next ih =>
    intro s hi hs s' hr hi'
    obtain ⟨h, hrun⟩ :=
      pushContent_kept (fun x => (Prog.access f next).run x = filled) s s' hs hr hi'
    obtain rfl := h.slot_eq
    have hsize := h.size_lt hi'
    have hinv := hi'.setSlot hsize
      (f (s'.queue.data (slotOf capacity s'.history.pushed.length)))
    refine ⟨spscGuar_producer rfl List.prefix_rfl ?_, hinv, ih _ _ hinv ⟨?_, ?_⟩⟩
    · rw [fifo_setSlot hi' hsize]
      exact .write f (hi'.free_eq hsize)
    · exact ⟨⟨h.view_ge, h.view_le, h.not_full, h.room⟩, h.writeSlot, h.slot_eq, h.filling, h.view⟩
    · rw [SpscQueue.setSlot_data_self]
      exact hrun

variable (write content) in
/-- The counter store of a push publishes the filled slot. -/
theorem fifo_publish (h : SpscInv capacity s) (hs : s.size < capacity.toNat) :
    (s.publish write content).fifo = (s.fifo.pushWith id).2 := by
  have hlen := h.pushed_length
  have hsize : (s.publish write content).size = s.size + 1 := by
    simp only [SpscState.size, SpscState.publish, List.length_append, List.length_singleton]
    omega
  rw [BoundedFifo.pushWith_of_free (h.free_eq hs)]
  refine congrArg₂ BoundedFifo.mk ?_ ?_
  · rw [hsize]
    change s.queue.objects s.history.popped.length (s.size + 1) = _
    rw [SpscQueue.objects_concat, ← hlen, h.capacity_eq]
    rfl
  · rw [hsize]
    change s.queue.objects (s.history.pushed ++ [content]).length
      (s.queue.capacity.toNat - (s.size + 1)) = _
    rw [List.length_append, List.length_singleton, h.capacity_eq, Nat.sub_sub]

/-- The invariant after the counter store of a push. -/
theorem SpscInv.publish (h : SpscInv capacity s) (hs : s.size < capacity.toNat)
    (hc : s.queue.data (slotOf capacity s.history.pushed.length) = content)
    (hw : write = s.queue.write) : SpscInv capacity (s.publish write content) := by
  have hlen := h.pushed_length
  have hfifo := fifo_publish write content h hs
  have hcontents : (s.publish write content).fifo.contents = s.fifo.contents ++ [content] := by
    rw [hfifo, BoundedFifo.pushWith_of_free (h.free_eq hs), hc]
    rfl
  have hpushed : (s.publish write content).history.pushed = s.history.pushed ++ [content] := rfl
  refine {
    capacity_eq := h.capacity_eq
    write_eq := ?_
    read_eq := h.read_eq
    pushed_eq := ?_
    size_le := ?_
    filling := nofun
    held := fun p hp => ⟨(h.held p hp).1, ?_⟩
    pushes := h.pushes
    reads := fun r hr => ?_ }
  · rw [hpushed, List.length_append, List.length_singleton, UInt64.ofNat_add, ← h.write_eq, ← hw]
    rfl
  · rw [hcontents, hpushed, ← List.append_assoc]
    exact congrArg (· ++ [content]) h.pushed_eq
  · rw [SpscState.size, hpushed, List.length_append, List.length_singleton]
    change _ - s.history.popped.length ≤ _
    omega
  · rw [BoundedFifo.front, hcontents, List.head?_append]
    exact (congrArg (Option.or · _) (h.held p hp).2).trans rfl
  · exact ReadRecord.Valid.mono (h.reads r hr) (List.prefix_append ..)

/-- The second load of a push: the queue is full when its view is. -/
theorem PushLoading.view (hi : SpscInv capacity s)
    (h : PushLoading capacity before n object s) :
    PushView capacity before n object s.queue.read s.history.popped.length s := by
  have hlen := hi.pushed_length
  have hsize := hi.size_le
  have hfull := hi.isFull_iff
  have hpushed : before.pushed = s.history.pushed := congrArg ProducerView.pushed h.before_eq
  have hwrite : before.write = s.queue.write := congrArg ProducerView.write h.before_eq
  rw [hi.read_eq, ← hwrite, ← hpushed] at hfull
  rw [← hpushed] at hlen
  refine ⟨h, hi.read_eq, h.popped_ge, le_rfl, fun hview => ?_, fun hview => ?_⟩
  · have := hfull.mp hview
    omega
  · have := mt hfull.mpr hview
    omega

/-- The end of a push whose fill returned: advance the slot and store the counter. -/
theorem publish_triple (fill : Prog T Bool) (object : T) :
    (spscContract (T := T) capacity .producer).Triple
      (fun s => PushFilling capacity before n k slot s ∧
        (true, s.queue.data slot) = fill.run object)
      (do
        let content ← Prog.atomically fun s =>
          (s.queue.data slot, { s with
            queue.writeSlot := SpscQueue.nextSlot s.queue.capacity s.queue.writeSlot })
        Prog.modify (·.publish before.write content)
        return PushOutcome.pushed)
      fun outcome => PushEnded capacity before n ⟨fill, object, outcome⟩ := by
  have hC := spscContract_stable (T := T) capacity .producer
  have hkept : (spscContract (T := T) capacity .producer).Kept fun s =>
      PushFilling capacity before n k slot s ∧ (true, s.queue.data slot) = fill.run object :=
    pushContent_kept fun x => (true, x) = fill.run object
  have hfilled : ∀ content, (spscContract (T := T) capacity .producer).Kept fun s =>
      PushFilled capacity before n k content s ∧ (true, content) = fill.run object :=
    fun content => pushFilled_kept.and fun _ _ h _ _ => h
  refine Triple.bind hC (triple_atomically hkept hfilled fun s hi h => ?_) fun content => ?_
  · obtain ⟨h, hfill⟩ := h
    have hnext : SpscQueue.nextSlot s.queue.capacity s.queue.writeSlot =
        slotOf capacity (s.history.pushed.length + 1) := by
      rw [hi.capacity_eq, h.writeSlot]
      exact nextSlot_slotOf (by have := h.size_lt hi; omega) _
    refine ⟨spscGuar_producer rfl List.prefix_rfl (.stay _), ?_,
      ⟨⟨h.view_ge, h.view_le, h.not_full, h.room⟩, hnext, ?_, ?_⟩, hfill⟩
    · exact ⟨hi.capacity_eq, hi.write_eq, hi.read_eq, hi.pushed_eq, hi.size_le, hi.filling,
        hi.held, hi.pushes, hi.reads⟩
    · exact congrArg s.queue.data h.slot_eq.symm
    · have hview := h.view
      simp only [SpscState.producerView, ProducerView.mk.injEq] at hview ⊢
      rw [hi.capacity_eq, hview.2.1]
      exact ⟨hview.1, rfl, hview.2.2⟩
  · refine Triple.bind hC (Q := fun _ => PushEnded capacity before n ⟨fill, object, .pushed⟩)
      (triple_modify (hfilled content) pushEnded_kept fun s hi h => ?_)
      fun _ => triple_pure pushEnded_kept fun _ _ h => h
    obtain ⟨h, hfill⟩ := h
    have hwrite : before.write = s.queue.write := (congrArg ProducerView.write h.view).symm
    have hpushed : before.pushed = s.history.pushed := (congrArg ProducerView.pushed h.view).symm
    refine ⟨spscGuar_producer rfl (List.prefix_append _ _) ?_,
      hi.publish (h.size_lt hi) h.content_eq hwrite, ?_, k, h.view_ge, h.view_le, ?_⟩
    · exact (fifo_publish before.write content hi (h.size_lt hi)).symm ▸
        .push (hi.free_eq (h.size_lt hi))
    · exact h.writeSlot.trans (congrArg (slotOf capacity) (by simp [SpscState.publish]))
    · rw [if_neg h.not_full]
      refine ⟨h.room, ?_⟩
      have hview := h.view
      simp only [SpscState.producerView, ProducerView.mk.injEq] at hview
      rw [← hfill, ProducerView.filled, if_pos rfl]
      simp only [SpscState.producerView, SpscState.publish, hview.2.1, hview.2.2.1, hpushed]

theorem pushWith_triple (fill : Prog T Bool) :
    (spscContract capacity .producer).Triple (PushLoading capacity before n object)
      (SpscQueue.pushWith fill)
      fun outcome => PushEnded capacity before n ⟨fill, object, outcome⟩ := by
  have hC := spscContract_stable (T := T) capacity .producer
  have hwrite : ∀ write : UInt64, (spscContract capacity .producer).Kept fun s =>
      PushLoading capacity before n object s ∧ write = before.write :=
    fun write => pushLoading_kept.and fun _ _ h _ _ => h
  refine (triple_read (fun s => spscGuar_refl _ s) pushLoading_kept hwrite fun s _ h =>
    ⟨h, (congrArg ProducerView.write h.before_eq).symm⟩).bind hC fun write => ?_
  refine Triple.of_pre (fun s h => h.2) fun (hw : write = before.write) => ?_
  subst hw
  have hview : ∀ r : UInt64 × UInt64, (spscContract capacity .producer).Kept fun s =>
      ∃ k, PushView capacity before n object r.1 k s ∧ r.2 = capacity :=
    fun _ => kept_exists fun _ => pushView_kept.and fun _ _ h _ _ => h
  refine (triple_read (fun s => spscGuar_refl _ s) (hwrite _) hview fun s hi h =>
    ⟨_, h.1.view hi, hi.capacity_eq⟩).bind hC fun ⟨read, capacity'⟩ => ?_
  apply triple_exists
  intro k
  refine Triple.of_pre (φ := read = .ofNat k ∧ capacity' = capacity)
    (fun s h => ⟨h.1.read_eq, h.2⟩) ?_
  rintro ⟨rfl, rfl⟩
  have hkept : (spscContract capacity' .producer).Kept fun s =>
      PushView capacity' before n object (.ofNat k) k s ∧ capacity' = capacity' :=
    pushView_kept.and fun _ _ h _ _ => h
  apply triple_ite
  · intro hfull
    refine triple_pure pushEnded_kept fun s hi h => ⟨h.1.idle.writeSlot, k, h.1.view_ge,
      h.1.view_le, ?_⟩
    rw [if_pos hfull]
    exact ⟨h.1.full hfull, congrArg (Prod.mk PushOutcome.full) h.1.before_eq.symm⟩
  · intro hroom
    refine Triple.bind hC (triple_atomically hkept
      (Q := fun slot s => PushFilling capacity' before n k slot s ∧
        fill.run (s.queue.data slot) = fill.run object)
      (fun slot => pushContent_kept fun x => fill.run x = fill.run object) fun s hi h => ?_)
      fun slot => ?_
    · obtain ⟨h, -⟩ := h
      have hslot := h.idle.writeSlot
      have hpushroom : PushRoom capacity' before n k s :=
        ⟨h.view_ge, h.view_le, hroom, h.room hroom⟩
      have hsize := hpushroom.size_lt hi (congrArg ProducerView.pushed h.before_eq).symm
      refine ⟨spscGuar_producer rfl List.prefix_rfl (.stay _), ?_,
        ⟨⟨h.view_ge, h.view_le, hroom, h.room hroom⟩, hslot, hslot, rfl, ?_⟩, ?_⟩
      · exact ⟨hi.capacity_eq, hi.write_eq, hi.read_eq, hi.pushed_eq, hi.size_le,
          fun slot hs => Option.mem_some.mp hs ▸ ⟨hslot, hsize⟩, hi.held, hi.pushes, hi.reads⟩
      · rw [h.before_eq]
        rfl
      · rw [h.object_eq]
        rfl
    · refine (fillSlot_triple fill (fill.run object)).bind hC fun returned => ?_
      apply triple_ite
      · intro hthrew
        refine triple_pure pushEnded_kept fun s hi h => ⟨h.1.writeSlot, k, h.1.view_ge,
          h.1.view_le, ?_⟩
        rw [if_neg hroom, ProducerView.filled, ← h.2, if_neg (by simpa using hthrew)]
        exact ⟨h.1.room, congrArg (Prod.mk PushOutcome.threw) h.1.view⟩
      · intro hreturned
        obtain rfl : returned = true := by simpa using hreturned
        exact publish_triple fill object

/-! ## Calls of the producer -/

/-- What the producer knows when none of its calls is under way. -/
def ProducerRest (capacity : UInt64) (s : SpscState T) : Prop :=
  ProducerIdle capacity s ∧
    CallRecord.Leads ⟨0, 0, 0, []⟩ s.history.pushes s.producerView

theorem pushLog_kept (before : ProducerView T) : (spscContract (T := T) capacity .producer).Kept
    fun s => CallRecord.Leads ⟨0, 0, 0, []⟩ s.history.pushes before := by
  rintro ⟨⟨⟩, ⟨⟩⟩ ⟨⟨⟩, ⟨⟩⟩ h ⟨hpart, -⟩ -
  cases hpart
  exact h

theorem producerRest_kept :
    (spscContract (T := T) capacity .producer).Kept (ProducerRest capacity) := by
  rintro ⟨⟨⟩, ⟨⟩⟩ ⟨⟨⟩, ⟨⟩⟩ ⟨h, hlog⟩ ⟨hpart, -⟩ -
  cases hpart
  exact ⟨⟨h.writeSlot, h.filling⟩, hlog⟩

/-- The record of a push keeps the invariant. -/
theorem SpscInv.endPush (h : SpscInv capacity s) {returned : PushReturn T}
    (hended : PushEnded capacity before n returned s) :
    SpscInv capacity
      (s.endPush ⟨returned, before, s.producerView, n, s.history.popped.length⟩) where
  capacity_eq := h.capacity_eq
  write_eq := h.write_eq
  read_eq := h.read_eq
  pushed_eq := h.pushed_eq
  size_le := h.size_le
  filling := nofun
  held := h.held
  pushes := List.forall_mem_cons.mpr ⟨hended.valid, h.pushes⟩
  reads := h.reads

theorem SpscQueue.fillSlot_preserves (slot : UInt64) (fill : Prog T α) :
    (SpscQueue.fillSlot slot fill).Preserves fun s => s.history.pushes := by
  induction fill with
  | pure a => exact Prog.preserves_pure a
  | access f next ih => exact fun s => ⟨rfl, ih _⟩

theorem SpscQueue.pushWith_preserves (fill : Prog T Bool) :
    (SpscQueue.pushWith fill).Preserves fun s => s.history.pushes := by
  refine Prog.preserves_read_bind fun write => Prog.preserves_read_bind fun read =>
    Prog.preserves_ite (Prog.preserves_pure _) ?_
  refine Prog.preserves_atomically_bind (fun _ => rfl) fun slot =>
    (SpscQueue.fillSlot_preserves slot fill).bind fun returned =>
      Prog.preserves_ite (Prog.preserves_pure _) ?_
  exact Prog.preserves_atomically_bind (fun _ => rfl) fun content =>
    Prog.preserves_modify_bind (fun _ => rfl) fun _ => Prog.preserves_pure _

/-- **A call of the producer**, with its record. -/
theorem pushing_triple (fill : Prog T Bool) :
    (spscContract (T := T) capacity .producer).Triple (ProducerRest capacity)
      (SpscCall.pushWith fill).program fun _ => ProducerRest capacity := by
  have hC := spscContract_stable (T := T) capacity .producer
  refine Triple.recorded
    (B := fun before n s => PushBegun capacity before n s ∧
      CallRecord.Leads ⟨0, 0, 0, []⟩ s.history.pushes before)
    (E := fun before n returned s => PushEnded capacity before n returned s ∧
      CallRecord.Leads ⟨0, 0, 0, []⟩ s.history.pushes before)
    hC (fun s => spscGuar_refl _ s) producerRest_kept
    (fun before _ => pushBegun_kept.and (pushLog_kept before))
    (fun before _ _ => pushEnded_kept.and (pushLog_kept before)) ?_ (fun before n => ?_) ?_
  · exact fun s _ h => ⟨⟨h.1, rfl, le_rfl⟩, h.2⟩
  · have hlog : (do
        let object ← Prog.read fun s : SpscState T => s.queue.data s.queue.writeSlot
        let outcome ← SpscQueue.pushWith fill
        return (⟨fill, object, outcome⟩ : PushReturn T)).Preserves
          fun s : SpscState T => s.history.pushes :=
      Prog.preserves_read_bind fun _ =>
        (SpscQueue.pushWith_preserves fill).bind fun _ => Prog.preserves_pure _
    refine Triple.frame ?_ hlog (pushLog_kept before) fun s s' hpushes h => hpushes ▸ h
    refine (triple_read (fun s => spscGuar_refl _ s) pushBegun_kept
      (Q := fun object => PushLoading capacity before n object) (fun _ => pushLoading_kept)
      fun s _ h => ⟨h, rfl⟩).bind hC fun object => ?_
    exact (pushWith_triple fill).bind hC fun outcome =>
      triple_pure pushEnded_kept fun _ _ h => h
  · intro before n returned s hi h
    exact ⟨spscGuar_producer rfl List.prefix_rfl (.stay _), hi.endPush h.1, ⟨h.1.writeSlot, rfl⟩,
      rfl, h.2⟩

end

end Anasa
