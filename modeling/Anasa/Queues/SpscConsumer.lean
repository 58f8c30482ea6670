import Anasa.Queues.SpscInvariant

/-!
# The consumer of the queue

`front` and `pop` obey the contract of the consumer: a view that is not empty shows the oldest
element, and the counter store of `pop` hands its slot back.
-/

namespace Anasa

open Concurrency Contract

variable {T : Type}

/-! ## What the consumer knows -/

/-- What the consumer knows between two calls. -/
def ConsumerIdle (capacity : UInt64) (s : SpscState T) : Prop :=
  s.queue.readSlot = slotOf capacity s.history.popped.length

/-- The consumer began a read after `before` had been popped and `n` elements pushed. -/
structure ReadBegun (capacity : UInt64) (before : List T) (n : ℕ) (s : SpscState T) : Prop where
  idle : ConsumerIdle capacity s
  before_eq : before = s.history.popped
  pushed_ge : n ≤ s.history.pushed.length

/-- What the consumer knows once it has loaded both counters, the second when `m` elements had
been pushed. -/
structure ReadView (capacity : UInt64) (before : List T) (n : ℕ) (read write : UInt64) (m : ℕ)
    (s : SpscState T) : Prop where
  idle : ConsumerIdle capacity s
  before_eq : before = s.history.popped
  read_eq : read = s.queue.read
  pushed_ge : n ≤ m
  popped_le : s.history.popped.length ≤ m
  pushed_le : m ≤ s.history.pushed.length
  isEmpty_iff : SpscQueue.isEmpty write read = true ↔ m = s.history.popped.length

/-- `front` has returned: no slot, if its view was empty, or that of the oldest element. -/
structure FrontFound (capacity : UInt64) (before : List T) (n : ℕ) (slot : Option UInt64) (m : ℕ)
    (s : SpscState T) : Prop where
  idle : ConsumerIdle capacity s
  before_eq : before = s.history.popped
  pushed_ge : n ≤ m
  popped_le : s.history.popped.length ≤ m
  pushed_le : m ≤ s.history.pushed.length
  slot_none : slot = none → m = s.history.popped.length
  slot_some : ∀ x ∈ slot, x = s.queue.readSlot ∧ s.history.popped.length < m

/-- The consumer has advanced beyond the oldest element. -/
structure Popping (capacity : UInt64) (before : List T) (n : ℕ) (read : UInt64) (m : ℕ)
    (content : T) (s : SpscState T) : Prop where
  readSlot : s.queue.readSlot = slotOf capacity (s.history.popped.length + 1)
  before_eq : before = s.history.popped
  read_eq : read = s.queue.read
  pushed_ge : n ≤ m
  popped_lt : s.history.popped.length < m
  pushed_le : m ≤ s.history.pushed.length
  content_eq : s.history.pushed[s.history.popped.length]? = some content

/-- A read has returned, and was that of a bounded queue. -/
structure ReadEnded (capacity : UInt64) (before : List T) (n : ℕ) (returned : ReadReturn T)
    (s : SpscState T) : Prop where
  idle : ConsumerIdle capacity s
  valid : ReadRecord.Valid s.history.pushed
    ⟨returned, before, s.history.popped, n, s.history.pushed.length⟩
  held : ∀ x, returned = .front (some x) → x.1 = slotOf capacity s.history.popped.length ∧
    s.history.pushed[s.history.popped.length]? = some x.2

/-! ## Knowledge that the producer keeps -/

section

variable {capacity : UInt64} {s : SpscState T} {before : List T} {n : ℕ} {read write : UInt64}
  {m : ℕ} {content : T}

/-- The end of a read may be observed later. -/
theorem ReadRecord.Valid.later {pushed pushed' : List T} {returned : ReadReturn T}
    {after : List T} (h : ReadRecord.Valid pushed ⟨returned, before, after, n, pushed.length⟩)
    (hle : pushed <+: pushed') :
    ReadRecord.Valid pushed' ⟨returned, before, after, n, pushed'.length⟩ := by
  obtain ⟨m, hn, hm, -, hbefore, hmatches⟩ := ReadRecord.Valid.mono h hle
  exact ⟨m, hn, hm.trans hle.length_le, le_rfl, hbefore, hmatches⟩

theorem readBegun_kept :
    (spscContract (T := T) capacity .consumer).Kept (ReadBegun capacity before n) := by
  intro s s' k ⟨h, hle⟩ _
  have hlen := hle.length_le
  obtain ⟨⟨⟩, ⟨⟩⟩ := s
  obtain ⟨⟨⟩, ⟨⟩⟩ := s'
  cases h
  exact ⟨k.idle, k.before_eq, k.pushed_ge.trans hlen⟩

theorem readLoaded_kept : (spscContract (T := T) capacity .consumer).Kept fun s =>
    ReadBegun capacity before n s ∧ read = s.queue.read := by
  refine readBegun_kept.and ?_
  rintro ⟨⟨⟩, ⟨⟩⟩ ⟨⟨⟩, ⟨⟩⟩ k ⟨h, -⟩ -
  cases h
  exact k

theorem readView_kept : (spscContract (T := T) capacity .consumer).Kept
    (ReadView capacity before n read write m) := by
  intro s s' k ⟨h, hle⟩ _
  have hlen := hle.length_le
  obtain ⟨⟨⟩, ⟨⟩⟩ := s
  obtain ⟨⟨⟩, ⟨⟩⟩ := s'
  cases h
  exact ⟨k.idle, k.before_eq, k.read_eq, k.pushed_ge, k.popped_le, k.pushed_le.trans hlen,
    k.isEmpty_iff⟩

theorem frontFound_kept {slot : Option UInt64} :
    (spscContract (T := T) capacity .consumer).Kept
      (FrontFound capacity before n slot m) := by
  intro s s' k ⟨h, hle⟩ _
  have hlen := hle.length_le
  obtain ⟨⟨⟩, ⟨⟩⟩ := s
  obtain ⟨⟨⟩, ⟨⟩⟩ := s'
  cases h
  exact ⟨k.idle, k.before_eq, k.pushed_ge, k.popped_le, k.pushed_le.trans hlen, k.slot_none,
    k.slot_some⟩

theorem popping_kept : (spscContract (T := T) capacity .consumer).Kept
    (Popping capacity before n read m content) := by
  intro s s' k ⟨h, hle⟩ _
  have hlen := hle.length_le
  have hcontent := (getElem?_of_isPrefix hle (k.popped_lt.trans_le k.pushed_le)).trans k.content_eq
  obtain ⟨⟨⟩, ⟨⟩⟩ := s
  obtain ⟨⟨⟩, ⟨⟩⟩ := s'
  cases h
  exact ⟨k.readSlot, k.before_eq, k.read_eq, k.pushed_ge, k.popped_lt, k.pushed_le.trans hlen,
    hcontent⟩

theorem readEnded_kept {returned : ReadReturn T} :
    (spscContract (T := T) capacity .consumer).Kept
      (ReadEnded capacity before n returned) := by
  intro s s' k ⟨h, hle⟩ _
  have hvalid := k.valid.later hle
  have hheld : ∀ x, returned = .front (some x) →
      x.1 = slotOf capacity s.history.popped.length ∧
        s'.history.pushed[s.history.popped.length]? = some x.2 := by
    intro x hx
    obtain ⟨hslot, hget⟩ := k.held x hx
    exact ⟨hslot, (getElem?_of_isPrefix hle (List.getElem?_eq_some_iff.mp hget).1).trans hget⟩
  have hidle := k.idle
  obtain ⟨⟨⟩, ⟨⟩⟩ := s
  obtain ⟨⟨⟩, ⟨⟩⟩ := s'
  cases h
  exact ⟨hidle, hvalid, hheld⟩

/-! ## Reading -/

/-- The next element, if it is among the first `m`. -/
theorem getElem?_take_pushed (hlt : s.history.popped.length < m) :
    (s.history.pushed.take m)[s.history.popped.length]? =
      s.history.pushed[s.history.popped.length]? :=
  List.getElem?_take_of_lt hlt

theorem getElem?_take_popped (pushed : List T) (popped : List T) :
    (pushed.take popped.length)[popped.length]? = none := by
  rw [List.getElem?_eq_none]
  exact List.length_take_le ..

/-- With a view that is not empty, the slot to read holds the next element. -/
theorem ConsumerIdle.found (hi : SpscInv capacity s) (hidle : ConsumerIdle capacity s)
    (hlt : s.history.popped.length < m) (hle : m ≤ s.history.pushed.length) :
    s.history.pushed[s.history.popped.length]? = some (s.queue.data s.queue.readSlot) := by
  have hlen := hi.pushed_length
  rw [hi.getElem_popped, hi.front_eq (by omega), hidle]

theorem loadCounters_triple : (spscContract (T := T) capacity .consumer).Triple
    (ReadBegun capacity before n) SpscQueue.loadCounters
    fun r s => ∃ m, ReadView capacity before n r.1 r.2 m s := by
  have hC := spscContract_stable (T := T) capacity .consumer
  apply (triple_read (fun s => spscGuar_refl _ s) readBegun_kept
    (Q := fun read s => ReadBegun capacity before n s ∧ read = s.queue.read)
    (fun _ => readLoaded_kept) fun s _ k => ⟨k, rfl⟩).bind hC
  intro read
  have hview : ∀ write : UInt64, (spscContract (T := T) capacity .consumer).Kept
      fun s => ∃ m, ReadView capacity before n read write m s :=
    fun _ => kept_exists fun _ => readView_kept
  apply (triple_read (fun s => spscGuar_refl _ s) readLoaded_kept hview ?_).bind hC
  · exact fun write => triple_pure (hview write) fun _ _ k => k
  · intro s hi k
    have hlen := hi.pushed_length
    have hsize := hi.size_le
    have hiff := hi.isEmpty_iff
    rw [← k.2] at hiff
    exact ⟨s.history.pushed.length, k.1.idle, k.1.before_eq, k.2, k.1.pushed_ge, by omega,
      le_rfl, hiff⟩

theorem front_triple : (spscContract (T := T) capacity .consumer).Triple
    (ReadBegun capacity before n) SpscQueue.front
    fun slot s => ∃ m, FrontFound capacity before n slot m s := by
  have hC := spscContract_stable (T := T) capacity .consumer
  have hkept : ∀ slot : Option UInt64, (spscContract (T := T) capacity .consumer).Kept
      fun s => ∃ m, FrontFound capacity before n slot m s :=
    fun _ => kept_exists fun _ => frontFound_kept
  apply loadCounters_triple.bind hC
  rintro ⟨read, write⟩
  apply triple_exists
  intro m
  apply triple_ite
  · intro hempty
    refine triple_pure (hkept none) fun s _ k => ⟨m, ?_⟩
    exact ⟨k.idle, k.before_eq, k.pushed_ge, k.popped_le, k.pushed_le,
      fun _ => k.isEmpty_iff.mp hempty, nofun⟩
  · intro hsome
    refine triple_read (fun s => spscGuar_refl _ s) readView_kept hkept fun s _ k => ⟨m, ?_⟩
    have hne := mt k.isEmpty_iff.mpr hsome
    have hle := k.popped_le
    refine ⟨k.idle, k.before_eq, k.pushed_ge, hle, k.pushed_le, nofun, fun x hx => ?_⟩
    exact ⟨(Option.mem_some.mp hx).symm, by omega⟩

/-- The caller of `front` looks at the object. -/
theorem look_triple (slot : Option UInt64) : (spscContract (T := T) capacity .consumer).Triple
    (fun s => ∃ m, FrontFound capacity before n slot m s)
    (.read fun s => .front (slot.map fun slot => (slot, s.queue.data slot)))
    (ReadEnded capacity before n) := by
  apply triple_exists
  intro m
  refine triple_read (fun s => spscGuar_refl _ s) frontFound_kept (fun _ => readEnded_kept)
    fun s hi k => ?_
  have hpopped := k.popped_le
  cases slot with
  | none =>
    obtain rfl := k.slot_none rfl
    refine ⟨k.idle, ⟨_, k.pushed_ge, k.pushed_le, le_rfl, ?_, ?_, k.before_eq.symm⟩, nofun⟩
    · rw [k.before_eq]
    · rw [k.before_eq, getElem?_take_popped]
      rfl
  | some slot =>
    obtain ⟨rfl, hlt⟩ := k.slot_some slot rfl
    have hnext := ConsumerIdle.found hi k.idle hlt k.pushed_le
    refine ⟨k.idle, ⟨m, k.pushed_ge, k.pushed_le, le_rfl, ?_, ?_, k.before_eq.symm⟩, ?_⟩
    · rw [k.before_eq]
      exact hpopped
    · rw [k.before_eq, getElem?_take_pushed hlt, hnext]
      rfl
    · rintro x hx
      cases hx
      exact ⟨k.idle, hnext⟩

variable (read content) in
/-- The counter store of a pop hands the oldest slot back. -/
theorem fifo_release (h : SpscInv capacity s) (hs : 0 < s.size) :
    (s.release read content).fifo = s.fifo.pop := by
  have hlen := h.pushed_length
  have hle := h.size_le
  obtain ⟨n, hn⟩ : ∃ n, s.size = n + 1 := ⟨s.size - 1, by omega⟩
  have hsize : (s.release read content).size = n := by
    simp only [SpscState.size, SpscState.release, List.length_append, List.length_singleton]
    omega
  have hcontents : s.fifo.contents = s.queue.data (slotOf capacity s.history.popped.length) ::
      s.queue.objects (s.history.popped.length + 1) n := by
    rw [SpscState.fifo, hn, SpscQueue.objects_succ, h.capacity_eq]
  rw [BoundedFifo.pop, hcontents]
  refine congrArg₂ BoundedFifo.mk ?_ ?_
  · rw [hsize]
    change s.queue.objects (s.history.popped ++ [content]).length n = _
    rw [List.length_append, List.length_singleton]
  · rw [hsize]
    change s.queue.objects s.history.pushed.length (s.queue.capacity.toNat - n) = _
    have hslot : s.history.pushed.length + (capacity.toNat - s.size) =
        s.history.popped.length + capacity.toNat := by omega
    rw [h.capacity_eq, show capacity.toNat - n = capacity.toNat - s.size + 1 by omega,
      SpscQueue.objects_concat, h.capacity_eq, hslot, slotOf_add_capacity, SpscState.fifo,
      h.capacity_eq]

/-- The invariant after the counter store of a pop. -/
theorem SpscInv.release (h : SpscInv capacity s) (hs : 0 < s.size)
    (hc : s.history.pushed[s.history.popped.length]? = some content)
    (hr : read = s.queue.read) : SpscInv capacity (s.release read content) := by
  have hlen := h.pushed_length
  have hle := h.size_le
  have hfifo := fifo_release read content h hs
  have hfront : s.fifo.contents = content :: (s.release read content).fifo.contents := by
    have hhead := (h.getElem_popped.symm.trans hc : s.fifo.contents.head? = some content)
    rw [hfifo, BoundedFifo.contents_pop]
    exact (List.cons_head?_tail hhead).symm
  have hpopped : (s.release read content).history.popped = s.history.popped ++ [content] := rfl
  have hsize : (s.release read content).size + 1 = s.size := by
    rw [SpscState.size, hpopped, List.length_append, List.length_singleton]
    change s.history.pushed.length - _ + 1 = _
    omega
  refine {
    capacity_eq := h.capacity_eq
    write_eq := h.write_eq
    read_eq := ?_
    pushed_eq := ?_
    size_le := by omega
    filling := fun slot hslot => ⟨(h.filling slot hslot).1, ?_⟩
    held := nofun
    pushes := h.pushes
    reads := h.reads }
  · rw [hpopped, List.length_append, List.length_singleton, UInt64.ofNat_add, ← h.read_eq, ← hr]
    rfl
  · refine h.pushed_eq.trans ?_
    rw [hfront, hpopped, List.append_assoc]
    rfl
  · have := (h.filling slot hslot).2
    omega

theorem pop_triple : (spscContract (T := T) capacity .consumer).Triple
    (ReadBegun capacity before n) SpscQueue.pop
    fun popped => ReadEnded capacity before n (.pop popped) := by
  have hC := spscContract_stable (T := T) capacity .consumer
  apply loadCounters_triple.bind hC
  rintro ⟨read, write⟩
  apply triple_exists
  intro m
  apply triple_ite
  · intro hempty
    refine triple_pure readEnded_kept fun s _ k => ?_
    obtain rfl := k.isEmpty_iff.mp hempty
    refine ⟨k.idle, ⟨_, k.pushed_ge, k.pushed_le, le_rfl, ?_, ?_, ?_⟩, nofun⟩
    · rw [k.before_eq]
    · rw [k.before_eq, getElem?_take_popped]
      rfl
    · rw [k.before_eq, getElem?_take_popped]
      exact (List.append_nil _).symm
  · intro hsome
    refine Triple.bind hC (triple_atomically readView_kept
      (Q := fun content => Popping capacity before n read m content) (fun _ => popping_kept)
      fun s hi k => ?_) fun content => ?_
    · have hne := mt k.isEmpty_iff.mpr hsome
      have hle := k.popped_le
      have hlt : s.history.popped.length < m := by omega
      have hsize := hi.size_le
      have hlen := hi.pushed_length
      have hpushed := k.pushed_le
      have hnext : SpscQueue.nextSlot s.queue.capacity s.queue.readSlot =
          slotOf capacity (s.history.popped.length + 1) := by
        rw [hi.capacity_eq, k.idle]
        exact nextSlot_slotOf (by omega) _
      refine ⟨spscGuar_consumer rfl (Nat.le_refl _) (.stay _), ?_,
        ⟨hnext, k.before_eq, k.read_eq, k.pushed_ge, hlt, k.pushed_le, k.idle.found hi hlt hpushed⟩⟩
      exact ⟨hi.capacity_eq, hi.write_eq, hi.read_eq, hi.pushed_eq, hi.size_le, hi.filling,
        hi.held, hi.pushes, hi.reads⟩
    · refine Triple.bind hC (Q := fun _ => ReadEnded capacity before n (.pop true))
        (triple_modify popping_kept readEnded_kept fun s hi k => ?_)
        fun _ => triple_pure readEnded_kept fun _ _ k => k
      have hlen := hi.pushed_length
      have hlt := k.popped_lt
      have hle := k.pushed_le
      have hsize : 0 < s.size := by omega
      have hlength : (s.history.popped ++ [content]).length = s.history.popped.length + 1 :=
        List.length_append
      have hnext : (s.history.pushed.take m)[before.length]? = some content := by
        rw [k.before_eq, getElem?_take_pushed hlt, k.content_eq]
      refine ⟨spscGuar_consumer rfl ?_ ?_, hi.release hsize k.content_eq k.read_eq, ?_, ?_, nofun⟩
      · exact (List.prefix_append s.history.popped [content]).length_le
      · rw [fifo_release read content hi hsize]
        exact .pop (hi.getElem_popped.symm.trans k.content_eq)
      · exact k.readSlot.trans (congrArg (slotOf capacity) hlength.symm)
      · refine ⟨m, k.pushed_ge, hle, le_rfl, ?_, ?_⟩
        · rw [k.before_eq]
          exact hlt.le
        · show true = _ ∧ s.history.popped ++ [content] = _
          rw [show (s.release read content).history.pushed = s.history.pushed from rfl, hnext,
            k.before_eq]
          exact ⟨rfl, rfl⟩

/-! ## Calls of the consumer -/

/-- What the consumer knows when none of its calls is under way. -/
def ConsumerRest (capacity : UInt64) (s : SpscState T) : Prop :=
  ConsumerIdle capacity s ∧ CallRecord.Leads [] s.history.reads s.history.popped

theorem readLog_kept (before : List T) : (spscContract (T := T) capacity .consumer).Kept
    fun s => CallRecord.Leads [] s.history.reads before := by
  rintro ⟨⟨⟩, ⟨⟩⟩ ⟨⟨⟩, ⟨⟩⟩ k ⟨h, -⟩ -
  cases h
  exact k

theorem consumerRest_kept :
    (spscContract (T := T) capacity .consumer).Kept (ConsumerRest capacity) := by
  rintro ⟨⟨⟩, ⟨⟩⟩ ⟨⟨⟩, ⟨⟩⟩ k ⟨h, -⟩ -
  cases h
  exact k

/-- The record of a read keeps the invariant. -/
theorem SpscInv.endRead (h : SpscInv capacity s) {returned : ReadReturn T}
    (hended : ReadEnded capacity before n returned s) :
    SpscInv capacity
      (s.endRead ⟨returned, before, s.history.popped, n, s.history.pushed.length⟩) where
  capacity_eq := h.capacity_eq
  write_eq := h.write_eq
  read_eq := h.read_eq
  pushed_eq := h.pushed_eq
  size_le := h.size_le
  filling := h.filling
  held := by
    intro x hx
    cases returned with
    | front found =>
      obtain rfl : found = some x := hx
      obtain ⟨hslot, hget⟩ := hended.held x rfl
      exact ⟨hslot, h.getElem_popped.symm.trans hget⟩
    | pop popped => exact h.held x hx
  pushes := h.pushes
  reads := List.forall_mem_cons.mpr ⟨hended.valid, h.reads⟩

/-- **A call of the consumer**, with its record. -/
theorem reading_triple {call : Prog (SpscState T) (ReadReturn T)}
    (hcall : ∀ before n, (spscContract (T := T) capacity .consumer).Triple
      (ReadBegun capacity before n) call (ReadEnded capacity before n))
    (hlog : call.Preserves fun s => s.history.reads) :
    (spscContract (T := T) capacity .consumer).Triple (ConsumerRest capacity)
      (recorded (·.history.popped) (·.history.pushed.length) SpscState.endRead call)
      fun _ => ConsumerRest capacity := by
  refine Triple.recorded (spscContract_stable capacity .consumer) (fun s => spscGuar_refl _ s)
    consumerRest_kept (fun before _ => readBegun_kept.and (readLog_kept before))
    (fun before _ _ => readEnded_kept.and (readLog_kept before)) ?_
    (fun before n => (hcall before n).frame hlog (readLog_kept before) ?_) ?_
  · exact fun s _ k => ⟨⟨k.1, rfl, le_rfl⟩, k.2⟩
  · intro s s' hreads k
    rwa [hreads]
  · intro before n returned s hi k
    exact ⟨spscGuar_consumer rfl (Nat.le_refl _) (.stay _), hi.endRead k.1, k.1.idle, rfl, k.2⟩

theorem SpscQueue.loadCounters_preserves {τ : Type} {v : SpscState T → τ} :
    (SpscQueue.loadCounters : Prog (SpscState T) (UInt64 × UInt64)).Preserves v :=
  Prog.preserves_read_bind fun _ => Prog.preserves_read_bind fun _ => Prog.preserves_pure _

theorem SpscQueue.front_preserves {τ : Type} {v : SpscState T → τ} :
    (SpscQueue.front : Prog (SpscState T) (Option UInt64)).Preserves v :=
  SpscQueue.loadCounters_preserves.bind fun _ =>
    Prog.preserves_ite (Prog.preserves_pure _) (Prog.preserves_read _)

theorem SpscQueue.pop_preserves :
    (SpscQueue.pop : Prog (SpscState T) Bool).Preserves fun s => s.history.reads :=
  SpscQueue.loadCounters_preserves.bind fun _ => Prog.preserves_ite (Prog.preserves_pure _)
    (Prog.preserves_atomically_bind (fun _ => rfl) fun _ =>
      Prog.preserves_modify_bind (fun _ => rfl) fun _ => Prog.preserves_pure _)

end

end Anasa
