import Anasa.Concurrency.CursorRing

/-!
# A ring of slots is a bounded queue

In every interleaving of its producer and its consumer, a ring whose cursors obey `RingLaws` is a
bounded first-in first-out queue, as long as its cursors are right. An element is copied while the
other thread moves, and still arrives as a whole: the slot of an element is assigned before the
element is published, and not again before it is handed back.
-/

namespace Concurrency

open Contract

variable {C T α : Type} {ring : CursorRing C} {capacity : ℕ}

/-! ## The invariant -/

theorem RingTakeRecord.Valid.mono {copying : Copying T} {pushed pushed' : List T}
    {r : RingTakeRecord T} (h : RingTakeRecord.Valid copying pushed r) (hle : pushed <+: pushed') :
    RingTakeRecord.Valid copying pushed' r := by
  obtain ⟨m, hn, hm, hafter, hbefore, hmatches⟩ := h
  refine ⟨m, hn, hm, hafter.trans hle.length_le, hbefore, ?_⟩
  obtain ⟨rest, rfl⟩ := hle
  rwa [List.take_append_of_le_length (hm.trans hafter)]

/-- What holds between two accesses while the cursors are right. -/
structure RingInv (laws : RingLaws ring capacity) (copying : Copying T) (s : Ring C T) :
    Prop where
  read_eq : s.read = laws.cursor s.history.popped.length
  write_eq : s.write = laws.cursor s.history.pushed.length
  popped_pushed : s.history.popped <+: s.history.pushed
  size_le : s.history.pushed.length ≤ s.history.popped.length + capacity
  /-- The slots of the elements hold them. -/
  stored : ∀ i x, s.history.popped.length ≤ i → s.history.pushed[i]? = some x →
    s.data (ring.slot (laws.cursor i)) = x
  pushes : ∀ r ∈ s.history.pushes, RingPushRecord.Valid capacity copying r
  takes : ∀ r ∈ s.history.takes, RingTakeRecord.Valid copying s.history.pushed r

/-- The invariant, as long as the cursors are right. -/
def RingSound (laws : RingLaws ring capacity) (copying : Copying T) (s : Ring C T) : Prop :=
  laws.within s.history.pushed.length → RingInv laws copying s

/-- What the producer alone changes. -/
def ringProducerPart (s : Ring C T) := (s.write, s.data, s.history.pushed, s.history.pushes)

/-- What the consumer alone changes. -/
def ringConsumerPart (s : Ring C T) := (s.read, s.history.popped, s.history.takes)

def ringRely : RingThread → Ring C T → Ring C T → Prop
  | .producer, s, s' => ringProducerPart s' = ringProducerPart s ∧
      s.history.popped.length ≤ s'.history.popped.length
  | .consumer, s, s' => ringConsumerPart s' = ringConsumerPart s ∧
      s.history.pushed <+: s'.history.pushed

def ringGuar (laws : RingLaws ring capacity) (i : RingThread) (s s' : Ring C T) : Prop :=
  (∀ j, j ≠ i → ringRely j s s') ∧
    (laws.within s'.history.pushed.length → FifoStep capacity s.contents s'.contents)

def ringContract (laws : RingLaws ring capacity) (copying : Copying T) (i : RingThread) :
    Contract (Ring C T) :=
  ⟨RingSound laws copying, ringRely i, ringGuar laws i⟩

theorem ringRely_refl (i : RingThread) (s : Ring C T) : ringRely i s s := by
  cases i with
  | producer => exact ⟨rfl, le_rfl⟩
  | consumer => exact ⟨rfl, List.prefix_rfl⟩

theorem ringRely_trans {i : RingThread} {s₁ s₂ s₃ : Ring C T} (h : ringRely i s₁ s₂)
    (h' : ringRely i s₂ s₃) : ringRely i s₁ s₃ := by
  cases i with
  | producer => exact ⟨h'.1.trans h.1, h.2.trans h'.2⟩
  | consumer => exact ⟨h'.1.trans h.1, h.2.trans h'.2⟩

section

variable {laws : RingLaws ring capacity} {copying : Copying T} {s s' : Ring C T}

theorem ringContract_stable (laws : RingLaws ring capacity) (copying : Copying T)
    (i : RingThread) : (ringContract laws copying i).Stable :=
  ⟨fun {_ s} _ => ringRely_refl i s, ringRely_trans⟩

theorem ringGuar_refl (i : RingThread) (s : Ring C T) : ringGuar laws i s s :=
  ⟨fun j _ => ringRely_refl j s, fun _ => .stay _⟩

/-- What the producer guarantees. -/
theorem ringGuar_producer (h : ringConsumerPart s' = ringConsumerPart s)
    (hpushed : s.history.pushed <+: s'.history.pushed)
    (hstep : laws.within s'.history.pushed.length → FifoStep capacity s.contents s'.contents) :
    ringGuar laws .producer s s' := by
  refine ⟨fun j hj => ?_, hstep⟩
  cases j with
  | producer => exact absurd rfl hj
  | consumer => exact ⟨h, hpushed⟩

/-- What the consumer guarantees. -/
theorem ringGuar_consumer (h : ringProducerPart s' = ringProducerPart s)
    (hpopped : s.history.popped.length ≤ s'.history.popped.length)
    (hstep : laws.within s'.history.pushed.length → FifoStep capacity s.contents s'.contents) :
    ringGuar laws .consumer s s' := by
  refine ⟨fun j hj => ?_, hstep⟩
  cases j with
  | producer => exact ⟨h, hpopped⟩
  | consumer => exact absurd rfl hj

namespace RingInv

theorem length_le (h : RingInv laws copying s) :
    s.history.popped.length ≤ s.history.pushed.length :=
  h.popped_pushed.length_le

theorem isFull_iff (h : RingInv laws copying s) (hw : laws.within s.history.pushed.length) :
    ring.isFull s.write s.read = true ↔ s.size = capacity := by
  have hlen := h.length_le
  have hle := h.size_le
  rw [h.read_eq, h.write_eq, laws.isFull_iff _ _ hlen hle hw]
  unfold Ring.size
  omega

theorem isEmpty_iff (h : RingInv laws copying s) (hw : laws.within s.history.pushed.length) :
    ring.isEmpty s.write s.read = true ↔ s.size = 0 := by
  have hlen := h.length_le
  have hle := h.size_le
  rw [h.read_eq, h.write_eq, laws.isEmpty_iff _ _ hlen hle hw]
  unfold Ring.size
  omega

/-- Writing into the next free slot. -/
theorem setSlot (h : RingInv laws copying s) (hw : laws.within s.history.pushed.length)
    (hroom : s.size < capacity) (x : T) :
    RingInv laws copying (s.setSlot (ring.slot s.write) x) := by
  have hlen := h.length_le
  refine { h with stored := fun i y hi hy => ?_ }
  have hlt : i < s.history.pushed.length := (List.getElem?_eq_some_iff.mp hy).1
  have hne : ring.slot (laws.cursor i) ≠ ring.slot s.write := by
    have hi : s.history.popped.length ≤ i := hi
    rw [h.write_eq]
    refine laws.slot_ne i _ hlt ?_ hw
    unfold Ring.size at hroom
    omega
  exact (Function.update_of_ne hne ..).trans (h.stored i y hi hy)

/-- Publishing the object in the next slot. -/
theorem publish (h : RingInv laws copying s) (hw : laws.within (s.history.pushed.length + 1))
    (hroom : s.size < capacity) {item : T} (hitem : s.data (ring.slot s.write) = item) :
    RingInv laws copying (s.publish (ring.next s.write) item) := by
  have hlen := h.length_le
  refine { h with
    write_eq := ?_
    popped_pushed := h.popped_pushed.trans (List.prefix_append _ _)
    size_le := ?_
    stored := fun i x hi hx => ?_
    takes := fun r hr => (h.takes r hr).mono (List.prefix_append ..) }
  · show ring.next s.write = laws.cursor (s.history.pushed ++ [item]).length
    rw [h.write_eq, laws.next_cursor _ hw, List.length_append, List.length_singleton]
  · show (s.history.pushed ++ [item]).length ≤ s.history.popped.length + capacity
    unfold Ring.size at hroom
    rw [List.length_append, List.length_singleton]
    omega
  · have hx : (s.history.pushed ++ [item])[i]? = some x := hx
    rcases Nat.lt_or_ge i s.history.pushed.length with hlt | hge
    · rw [List.getElem?_append_left hlt] at hx
      exact h.stored i x hi hx
    · have hi' : i = s.history.pushed.length := by
        have := (List.getElem?_eq_some_iff.mp hx).1
        rw [List.length_append, List.length_singleton] at this
        omega
      rw [hi', List.getElem?_concat_length] at hx
      rw [hi', ← h.write_eq, ← Option.some.inj hx]
      exact hitem

/-- Handing the oldest object back. -/
theorem release (h : RingInv laws copying s) (hw : laws.within s.history.pushed.length) {item : T}
    (hitem : s.history.pushed[s.history.popped.length]? = some item) :
    RingInv laws copying (s.release (ring.next s.read) item) := by
  have hlt : s.history.popped.length < s.history.pushed.length :=
    (List.getElem?_eq_some_iff.mp hitem).1
  refine { h with
    read_eq := ?_
    popped_pushed := ?_
    size_le := ?_
    stored := fun i x hi hx => h.stored i x ?_ hx }
  · show ring.next s.read = laws.cursor (s.history.popped ++ [item]).length
    rw [h.read_eq, laws.next_cursor _ (laws.within_le hlt hw), List.length_append,
      List.length_singleton]
  · obtain ⟨rest, hrest⟩ := h.popped_pushed
    rw [← hrest, List.getElem?_append_right le_rfl, Nat.sub_self] at hitem
    cases rest with
    | nil => cases hitem
    | cons x rest =>
      obtain rfl := Option.some.inj hitem
      refine ⟨rest, ?_⟩
      show s.history.popped ++ [x] ++ rest = s.history.pushed
      rw [← hrest, List.append_assoc, List.singleton_append]
  · show s.history.pushed.length ≤ (s.history.popped ++ [item]).length + capacity
    have := h.size_le
    rw [List.length_append]
    omega
  · have hi : (s.history.popped ++ [item]).length ≤ i := hi
    rw [List.length_append] at hi
    omega

end RingInv

/-! ## The producer -/

/-- A push began after the elements `before` had been pushed and `n` of them popped. -/
structure RingPushBegun (before : List T) (n : ℕ) (s : Ring C T) : Prop where
  before_eq : before = s.history.pushed
  popped_ge : n ≤ s.history.popped.length

/-- The producer has loaded its cursor. -/
structure RingPushLoading (ring : CursorRing C) (before : List T) (n : ℕ) (object : T) (write : C)
    (s : Ring C T) : Prop extends RingPushBegun before n s where
  write_eq : write = s.write
  object_eq : object = s.data (ring.slot s.write)

/-- The producer has loaded the other cursor, when `k` elements had been popped. -/
structure RingPushView (laws : RingLaws ring capacity) (before : List T) (n : ℕ) (object : T)
    (write read : C) (k : ℕ) (s : Ring C T) : Prop
    extends RingPushLoading ring before n object write s where
  view_ge : n ≤ k
  view_le : k ≤ s.history.popped.length
  length_le : laws.within before.length → before.length ≤ k + capacity
  isFull_iff : laws.within before.length →
    (ring.isFull write read = true ↔ before.length = k + capacity)

/-- The producer assigns to the next slot, and the ring has room if it is right. -/
structure RingFilling (laws : RingLaws ring capacity) (before : List T) (n k : ℕ) (write : C)
    (s : Ring C T) : Prop where
  before_eq : before = s.history.pushed
  write_eq : write = s.write
  view_ge : n ≤ k
  view_le : k ≤ s.history.popped.length
  room : laws.within before.length → before.length < k + capacity

/-- A push has ended, and was that of a bounded queue if the cursors are right. -/
def RingPushEnded (laws : RingLaws ring capacity) (copying : Copying T) (before : List T) (n : ℕ)
    (returned : RingPushReturn T) (s : Ring C T) : Prop :=
  laws.within s.history.pushed.length → RingPushRecord.Valid capacity copying
    ⟨returned, before, s.history.pushed, n, s.history.popped.length⟩

section

variable {before : List T} {n k : ℕ} {object item : T} {write read : C}

theorem ringPushBegun_kept :
    (ringContract laws copying .producer).Kept (RingPushBegun before n) := by
  rintro ⟨_, _, _, ⟨⟩⟩ ⟨_, _, _, ⟨⟩⟩ h ⟨hpart, hle⟩ -
  cases hpart
  exact ⟨h.before_eq, h.popped_ge.trans hle⟩

/-- The client has looked at the object in the next slot. -/
theorem ringPushObject_kept : (ringContract laws copying .producer).Kept fun s =>
    RingPushBegun before n s ∧ object = s.data (ring.slot s.write) := by
  refine ringPushBegun_kept.and ?_
  rintro ⟨_, _, _, ⟨⟩⟩ ⟨_, _, _, ⟨⟩⟩ h ⟨hpart, -⟩ -
  cases hpart
  exact h

theorem ringPushLoading_kept :
    (ringContract laws copying .producer).Kept (RingPushLoading ring before n object write) := by
  rintro ⟨_, _, _, ⟨⟩⟩ ⟨_, _, _, ⟨⟩⟩ h ⟨hpart, hle⟩ -
  cases hpart
  exact ⟨⟨h.before_eq, h.popped_ge.trans hle⟩, h.write_eq, h.object_eq⟩

theorem ringPushView_kept : (ringContract laws copying .producer).Kept
    (RingPushView laws before n object write read k) :=
  fun s s' h hr hi => ⟨ringPushLoading_kept s s' h.toRingPushLoading hr hi, h.view_ge,
    h.view_le.trans hr.2, h.length_le, h.isFull_iff⟩

/-- What the producer knows of the slot that it assigns to. -/
theorem ringFilling_kept (K : T → Prop) : (ringContract laws copying .producer).Kept fun s =>
    RingFilling laws before n k write s ∧ K (s.data (ring.slot write)) := by
  rintro ⟨_, _, _, ⟨⟩⟩ ⟨_, _, _, ⟨⟩⟩ ⟨h, hdata⟩ ⟨hpart, hle⟩ -
  cases hpart
  exact ⟨⟨h.before_eq, h.write_eq, h.view_ge, h.view_le.trans hle, h.room⟩, hdata⟩

theorem ringPushEnded_kept {returned : RingPushReturn T} :
    (ringContract laws copying .producer).Kept
      (RingPushEnded laws copying before n returned) := by
  rintro ⟨_, _, _, ⟨⟩⟩ ⟨_, _, _, ⟨⟩⟩ h ⟨hpart, hle⟩ -
  cases hpart
  intro hw
  obtain ⟨k, hge, hk, hvalid⟩ := h hw
  exact ⟨k, hge, hk.trans hle, hvalid⟩

theorem RingFilling.size_lt (h : RingFilling laws before n k write s)
    (hi : RingInv laws copying s) (hw : laws.within s.history.pushed.length) :
    s.size < capacity := by
  have hroom := h.room (h.before_eq ▸ hw)
  have hle := h.view_le
  have hlen := hi.length_le
  rw [h.before_eq] at hroom
  unfold Ring.size
  omega

/-- An access to the next free slot. -/
theorem RingFilling.setSlot (h : RingFilling laws before n k write s)
    (hi : RingSound laws copying s) (x : T) :
    ringGuar laws .producer s (s.setSlot (ring.slot write) x) ∧
      RingSound laws copying (s.setSlot (ring.slot write) x) ∧
        RingFilling laws before n k write (s.setSlot (ring.slot write) x) := by
  refine ⟨ringGuar_producer rfl List.prefix_rfl fun _ => .stay _, fun hw => ?_,
    ⟨h.before_eq, h.write_eq, h.view_ge, h.view_le, h.room⟩⟩
  rw [h.write_eq]
  exact (hi hw).setSlot hw (h.size_lt (hi hw) hw) x

/-- **An assignment** to the next free slot: what is left of it has the result of the whole. -/
theorem onSlot_producer (p : Prog T Bool) (assigned : Bool × T) :
    (ringContract laws copying .producer).Triple
      (fun s => RingFilling laws before n k write s ∧ p.run (s.data (ring.slot write)) = assigned)
      (Ring.onSlot (ring.slot write) p)
      fun returned s => RingFilling laws before n k write s ∧
        (returned, s.data (ring.slot write)) = assigned := by
  induction p with
  | pure a => exact triple_pure (ringFilling_kept fun x => (a, x) = assigned) fun _ _ h => h
  | access f next ih =>
    intro s _ hs s' hr hi'
    obtain ⟨h, hrun⟩ :=
      ringFilling_kept (fun x => (Prog.access f next).run x = assigned) s s' hs hr hi'
    obtain ⟨hguar, hinv, h'⟩ := h.setSlot hi' (f (s'.data (ring.slot write)))
    refine ⟨hguar, hinv, ih _ _ hinv ⟨h', ?_⟩⟩
    rw [show (s'.setSlot (ring.slot write) (f (s'.data (ring.slot write)))).data
      (ring.slot write) = f (s'.data (ring.slot write)) from Function.update_self ..]
    exact hrun

/-- The end of a push that has assigned its object. -/
theorem publish_safe (hassigned : ((copying.assign item).run object).1 = true) :
    (ringContract laws copying .producer).Triple
      (fun s => RingFilling laws before n k write s ∧ s.data (ring.slot write) = item)
      (.modify (·.publish (ring.next write) item))
      fun _ => RingPushEnded laws copying before n ⟨item, object, .pushed⟩ := by
  refine triple_modify (ringFilling_kept fun x => x = item) ringPushEnded_kept
    fun s hi hs => ?_
  obtain ⟨h, hitem⟩ := hs
  have hlength : (s.history.pushed ++ [item]).length = s.history.pushed.length + 1 := by
    rw [List.length_append, List.length_singleton]
  have hbefore : laws.within (s.history.pushed ++ [item]).length →
      laws.within s.history.pushed.length := laws.within_le (by omega)
  refine ⟨ringGuar_producer rfl (List.prefix_append _ _) fun hw => ?_, fun hw => ?_, fun hw => ?_⟩
  · have hroom := h.size_lt (hi (hbefore hw)) (hbefore hw)
    have hle := (hi (hbefore hw)).length_le
    show FifoStep capacity _ ((s.history.pushed ++ [item]).drop s.history.popped.length)
    rw [List.drop_append_of_le_length hle]
    refine .push item ?_
    rw [Ring.length_contents]
    exact hroom
  · rw [h.write_eq]
    refine (hi (hbefore hw)).publish (hlength ▸ hw) (h.size_lt (hi (hbefore hw)) (hbefore hw)) ?_
    rw [← h.write_eq]
    exact hitem
  · have hroom := h.room (h.before_eq ▸ hbefore hw)
    refine ⟨k, h.view_ge, h.view_le, hroom.le, ?_⟩
    show (RingPush.pushed, s.history.pushed ++ [item]) = _
    rw [if_neg hroom.ne, if_pos hassigned, h.before_eq]

/-- The second load of a push. -/
theorem RingPushLoading.view (hi : RingSound laws copying s)
    (h : RingPushLoading ring before n object write s) :
    RingPushView laws before n object write s.read s.history.popped.length s := by
  have hsize : laws.within before.length →
      s.history.popped.length ≤ before.length ∧ before.length ≤ s.history.popped.length + capacity ∧
        (ring.isFull write s.read = true ↔ s.size = capacity) := by
    intro hw
    rw [h.before_eq] at hw ⊢
    refine ⟨(hi hw).length_le, (hi hw).size_le, ?_⟩
    rw [h.write_eq]
    exact (hi hw).isFull_iff hw
  refine ⟨h, h.popped_ge, le_rfl, fun hw => (hsize hw).2.1, fun hw => ?_⟩
  obtain ⟨hle, -, hiff⟩ := hsize hw
  rw [hiff, Ring.size, ← h.before_eq]
  omega

/-- **A push** obeys the contract of the producer, and is that of a bounded queue. -/
theorem push_safe (item : T) :
    (ringContract laws copying .producer).Triple
      (fun s => RingPushBegun before n s ∧ object = s.data (ring.slot s.write))
      (ring.push copying item)
      fun outcome => RingPushEnded laws copying before n ⟨item, object, outcome⟩ := by
  have hstable := ringContract_stable laws copying .producer
  refine Triple.bind hstable (triple_read (fun s => ringGuar_refl .producer s) ringPushObject_kept
    (Q := fun write => RingPushLoading ring before n object write)
    (fun _ => ringPushLoading_kept) fun s _ h => ⟨h.1, rfl, h.2⟩) fun write => ?_
  have hview : ∀ read, (ringContract laws copying .producer).Kept fun s =>
      ∃ k, RingPushView laws before n object write read k s :=
    fun _ => kept_exists fun _ => ringPushView_kept
  refine Triple.bind hstable (triple_read (fun s => ringGuar_refl .producer s)
    ringPushLoading_kept hview fun s hi h => ⟨_, h.view hi⟩) fun read => ?_
  apply triple_exists
  intro k
  apply triple_ite
  · intro hfull
    refine triple_pure ringPushEnded_kept fun s _ h hw => ?_
    have hw : laws.within before.length := h.before_eq ▸ hw
    refine ⟨k, h.view_ge, h.view_le, h.length_le hw, ?_⟩
    rw [if_pos ((h.isFull_iff hw).mp hfull), h.before_eq]
  · intro hroom
    refine Triple.bind hstable (Q := fun assigned s => RingFilling laws before n k write s ∧
      (assigned, s.data (ring.slot write)) = (copying.assign item).run object)
      ((onSlot_producer (copying.assign item) _).conseq (fun s _ h => ?_) fun _ _ _ h => h)
      fun assigned => ?_
    · refine ⟨⟨h.before_eq, h.write_eq, h.view_ge, h.view_le, fun hw => ?_⟩, ?_⟩
      · exact lt_of_le_of_ne (h.length_le hw) (mt (h.isFull_iff hw).mpr hroom)
      · rw [h.object_eq, h.write_eq]
    apply triple_ite
    · intro hassigned
      refine Triple.of_pre (φ := (assigned, item) = (copying.assign item).run object)
        (fun s h => ?_) fun heq => ?_
      · have hitem := copying.assign_eq item object
        rw [← h.2] at hitem ⊢
        rw [← hitem hassigned]
      have hran : ((copying.assign item).run object).1 = true := by
        rw [← heq]
        exact hassigned
      refine (Triple.conseq (publish_safe hran) (fun s _ h => ⟨h.1, ?_⟩)
        fun _ _ _ h => h).bind hstable fun _ => triple_pure ringPushEnded_kept fun _ _ h => h
      exact congrArg Prod.snd (h.2.trans heq.symm)
    · intro hthrew
      refine triple_pure ringPushEnded_kept fun s _ h hw => ?_
      obtain ⟨h, heq⟩ := h
      have hroom := h.room (h.before_eq ▸ hw)
      refine ⟨k, h.view_ge, h.view_le, hroom.le, ?_⟩
      rw [if_neg hroom.ne, ← heq, if_neg hthrew, h.before_eq]

end

/-! ## The consumer -/

/-- A pop or a peek began after the elements `before` had been popped and `n` pushed. -/
structure RingTakeBegun (before : List T) (n : ℕ) (s : Ring C T) : Prop where
  before_eq : before = s.history.popped
  pushed_ge : n ≤ s.history.pushed.length

/-- The consumer has loaded its cursor, and the other one when `m` elements had been pushed. -/
structure RingTakeView (laws : RingLaws ring capacity) (before : List T) (n : ℕ) (read write : C)
    (m : ℕ) (s : Ring C T) : Prop where
  before_eq : before = s.history.popped
  read_eq : read = s.read
  view_ge : n ≤ m
  view_le : m ≤ s.history.pushed.length
  length_le : laws.within m → before.length ≤ m
  isEmpty_iff : laws.within m → (ring.isEmpty write read = true ↔ m = before.length)

/-- The consumer has found that there is an element, if the cursors are right. -/
structure RingTaking (laws : RingLaws ring capacity) (before : List T) (n : ℕ) (read : C) (m : ℕ)
    (s : Ring C T) : Prop where
  before_eq : before = s.history.popped
  read_eq : read = s.read
  view_ge : n ≤ m
  view_le : m ≤ s.history.pushed.length
  front : laws.within m → before.length < m

/-- The consumer has copied the oldest element, if there is one and the cursors are right. -/
structure RingLoaded (laws : RingLaws ring capacity) (copying : Copying T) (before : List T)
    (n : ℕ) (read : C) (result : RingTake T) (m : ℕ) (s : Ring C T) : Prop where
  before_eq : before = s.history.popped
  read_eq : read = s.read
  view_ge : n ≤ m
  view_le : m ≤ s.history.pushed.length
  result_eq : laws.within s.history.pushed.length → before.length ≤ m ∧
    result = copying.take (s.history.pushed.take m)[before.length]?

/-- A pop or a peek has ended, and was that of a bounded queue if the cursors are right. -/
def RingTakeEnded (laws : RingLaws ring capacity) (copying : Copying T) (before : List T) (n : ℕ)
    (returned : RingTakeReturn T) (s : Ring C T) : Prop :=
  laws.within s.history.pushed.length → RingTakeRecord.Valid copying s.history.pushed
    ⟨returned, before, s.history.popped, n, s.history.pushed.length⟩

section

variable {before : List T} {n m : ℕ} {read write : C} {result : RingTake T}

theorem ringTakeBegun_kept :
    (ringContract laws copying .consumer).Kept (RingTakeBegun before n) := by
  rintro ⟨_, _, _, ⟨⟩⟩ ⟨_, _, _, ⟨⟩⟩ h ⟨hpart, hle⟩ -
  cases hpart
  exact ⟨h.before_eq, h.pushed_ge.trans hle.length_le⟩

theorem ringTakeRead_kept : (ringContract laws copying .consumer).Kept fun s =>
    RingTakeBegun before n s ∧ read = s.read := by
  refine ringTakeBegun_kept.and ?_
  rintro ⟨_, _, _, ⟨⟩⟩ ⟨_, _, _, ⟨⟩⟩ h ⟨hpart, -⟩ -
  cases hpart
  exact h

theorem ringTakeView_kept : (ringContract laws copying .consumer).Kept
    (RingTakeView laws before n read write m) := by
  rintro ⟨_, _, _, ⟨⟩⟩ ⟨_, _, _, ⟨⟩⟩ h ⟨hpart, hle⟩ -
  cases hpart
  exact ⟨h.before_eq, h.read_eq, h.view_ge, h.view_le.trans hle.length_le, h.length_le,
    h.isEmpty_iff⟩

theorem ringTaking_kept :
    (ringContract laws copying .consumer).Kept (RingTaking laws before n read m) := by
  rintro ⟨_, _, _, ⟨⟩⟩ ⟨_, _, _, ⟨⟩⟩ h ⟨hpart, hle⟩ -
  cases hpart
  exact ⟨h.before_eq, h.read_eq, h.view_ge, h.view_le.trans hle.length_le, h.front⟩

/-- What is known of the oldest element stays known. -/
theorem ringFront_kept (K : T → Prop) : (ringContract laws copying .consumer).Kept fun s =>
    RingTaking laws before n read m s ∧ (laws.within s.history.pushed.length →
      ∀ x, s.history.pushed[before.length]? = some x → K x) := by
  rintro s s' ⟨h, hfront⟩ hr hi
  refine ⟨ringTaking_kept s s' h hr hi, fun hw x hx => ?_⟩
  have hw := laws.within_le hr.2.length_le hw
  have hlt := (h.front (laws.within_le h.view_le hw)).trans_le h.view_le
  exact hfront hw x ((getElem?_of_isPrefix hr.2 hlt).symm.trans hx)

theorem ringLoaded_kept : (ringContract laws copying .consumer).Kept
    (RingLoaded laws copying before n read result m) := by
  rintro s s' h ⟨hpart, hle⟩ -
  have hresult : laws.within s'.history.pushed.length → before.length ≤ m ∧
      result = copying.take (s'.history.pushed.take m)[before.length]? := by
    intro hw
    obtain ⟨rest, hrest⟩ := hle
    rw [← hrest] at hw ⊢
    rw [List.take_append_of_le_length h.view_le]
    exact h.result_eq (laws.within_le (by simp) hw)
  simp only [ringConsumerPart, Prod.mk.injEq] at hpart
  exact ⟨h.before_eq.trans hpart.2.1.symm, h.read_eq.trans hpart.1.symm, h.view_ge,
    h.view_le.trans hle.length_le, hresult⟩

theorem ringTakeEnded_kept {returned : RingTakeReturn T} :
    (ringContract laws copying .consumer).Kept
      (RingTakeEnded laws copying before n returned) := by
  rintro s s' h ⟨hpart, hle⟩ - hw
  simp only [ringConsumerPart, Prod.mk.injEq] at hpart
  obtain ⟨m, hge, hm, hafter, hbefore, hmatches⟩ :=
    (h (laws.within_le hle.length_le hw)).mono hle
  refine ⟨m, hge, hm.trans hle.length_le, le_rfl, hbefore, ?_⟩
  rw [hpart.2.1]
  exact hmatches

/-- **A load** of the oldest element, while the producer moves. -/
theorem onSlot_consumer (p : Prog T (Option T)) (hp : p.Preserves id)
    (final : T → Option T) :
    (ringContract laws copying .consumer).Triple
      (fun s => RingTaking laws before n read m s ∧ (laws.within s.history.pushed.length →
        ∀ x, s.history.pushed[before.length]? = some x → (p.run x).1 = final x))
      (Ring.onSlot (ring.slot read) p)
      fun loaded s => RingTaking laws before n read m s ∧
        (laws.within s.history.pushed.length →
          ∀ x, s.history.pushed[before.length]? = some x → loaded = final x) := by
  induction p with
  | pure loaded => exact triple_pure (ringFront_kept fun x => loaded = final x) fun _ _ h => h
  | access f next ih =>
    intro s _ hs s' hr hi'
    obtain ⟨htake, hfront⟩ :=
      ringFront_kept (fun x => ((Prog.access f next).run x).1 = final x) s s' hs hr hi'
    have hsame : s'.setSlot (ring.slot read) (f (s'.data (ring.slot read))) = s' := by
      rw [show f (s'.data (ring.slot read)) = s'.data (ring.slot read) from (hp _).1]
      unfold Ring.setSlot
      rw [Function.update_eq_self]
    show ringGuar laws .consumer s' (s'.setSlot _ _) ∧ RingSound laws copying (s'.setSlot _ _) ∧
      Safe _ _ _ (s'.setSlot _ _)
    rw [hsame]
    refine ⟨ringGuar_refl .consumer s', hi', ih _ (hp _).2 s' hi' ⟨htake, fun hw x hx => ?_⟩⟩
    have hstored := (hi' hw).stored _ x (by rw [htake.before_eq]) hx
    rw [htake.before_eq, ← (hi' hw).read_eq, ← htake.read_eq] at hstored
    have hran := hfront hw x hx
    rw [Prog.run_access, show f x = x from (hp x).1] at hran
    rw [hstored]
    exact hran

/-- The second load of a pop or a peek. -/
theorem RingTakeBegun.view (hi : RingSound laws copying s) (h : RingTakeBegun before n s) :
    RingTakeView laws before n s.read s.write s.history.pushed.length s := by
  refine ⟨h.before_eq, rfl, h.pushed_ge, le_rfl, fun hw => ?_, fun hw => ?_⟩
  · rw [h.before_eq]
    exact (hi hw).length_le
  · have hlen := (hi hw).length_le
    rw [(hi hw).isEmpty_iff hw, Ring.size, h.before_eq]
    omega

/-- The ring was not empty. -/
theorem RingTakeView.taking (h : RingTakeView laws before n read write m s)
    (hfront : ¬ring.isEmpty write read = true) : RingTaking laws before n read m s :=
  ⟨h.before_eq, h.read_eq, h.view_ge, h.view_le, fun hw =>
    lt_of_le_of_ne (h.length_le hw) (Ne.symm (mt (h.isEmpty_iff hw).mpr hfront))⟩

/-- The oldest element has been copied, or its copy has thrown. -/
theorem RingTaking.loaded {loaded : Option T} (h : RingTaking laws before n read m s)
    (hloaded : laws.within s.history.pushed.length →
      ∀ x, s.history.pushed[before.length]? = some x → loaded = (copying.load.run x).1) :
    RingLoaded laws copying before n read (loaded.elim .threw .took) m s := by
  refine ⟨h.before_eq, h.read_eq, h.view_ge, h.view_le, fun hw => ?_⟩
  have hlt := h.front (laws.within_le h.view_le hw)
  have hget := List.getElem?_eq_getElem (hlt.trans_le h.view_le)
  refine ⟨hlt.le, ?_⟩
  rw [List.getElem?_take_of_lt hlt, hget, hloaded hw _ hget]
  exact copying.elim_load _

/-- **Loading the front** obeys the contract of the consumer. -/
theorem loadFront_safe : (ringContract laws copying .consumer).Triple (RingTakeBegun before n)
    (ring.loadFront copying)
    fun loaded s => ∃ m, RingLoaded laws copying before n loaded.1 loaded.2 m s := by
  have hstable := ringContract_stable laws copying .consumer
  have hkept : ∀ loaded : C × RingTake T, (ringContract laws copying .consumer).Kept fun s =>
      ∃ m, RingLoaded laws copying before n loaded.1 loaded.2 m s :=
    fun _ => kept_exists fun _ => ringLoaded_kept
  refine Triple.bind hstable (triple_read (fun s => ringGuar_refl .consumer s) ringTakeBegun_kept
    (Q := fun read s => RingTakeBegun before n s ∧ read = s.read)
    (fun _ => ringTakeRead_kept) fun s _ h => ⟨h, rfl⟩) fun read => ?_
  have hview : ∀ write, (ringContract laws copying .consumer).Kept fun s =>
      ∃ m, RingTakeView laws before n read write m s :=
    fun _ => kept_exists fun _ => ringTakeView_kept
  refine Triple.bind hstable (triple_read (fun s => ringGuar_refl .consumer s) ringTakeRead_kept
    hview fun s hi h => ⟨_, h.2 ▸ h.1.view hi⟩) fun write => ?_
  apply triple_exists
  intro m
  apply triple_ite
  · intro hempty
    refine triple_pure (hkept (read, .empty)) fun s _ h => ⟨m, h.before_eq, h.read_eq, h.view_ge,
      h.view_le, fun hw => ?_⟩
    have hm := (h.isEmpty_iff (laws.within_le h.view_le hw)).mp hempty
    refine ⟨hm.ge, ?_⟩
    rw [List.getElem?_eq_none ((List.length_take_le ..).trans hm.le)]
    rfl
  · intro hfront
    have hload : (ringContract laws copying .consumer).Triple
        (RingTakeView laws before n read write m) (Ring.onSlot (ring.slot read) copying.load)
        fun loaded => RingLoaded laws copying before n read (loaded.elim .threw .took) m :=
      (onSlot_consumer copying.load copying.load_preserves fun x => (copying.load.run x).1).conseq
        (fun _ _ h => ⟨h.taking hfront, fun _ _ _ => rfl⟩) fun _ _ _ h => h.1.loaded h.2
    refine hload.bind hstable fun loaded => ?_
    cases loaded with
    | none => exact triple_pure (hkept (read, .threw)) fun s _ h => ⟨m, h⟩
    | some item => exact triple_pure (hkept (read, .took item)) fun s _ h => ⟨m, h⟩

/-- **A pop** obeys the contract of the consumer, and is that of a bounded queue. -/
theorem pop_safe : (ringContract laws copying .consumer).Triple (RingTakeBegun before n)
    (ring.pop copying) fun result => RingTakeEnded laws copying before n (.pop result) := by
  have hstable := ringContract_stable laws copying .consumer
  refine loadFront_safe.bind hstable fun loaded => ?_
  obtain ⟨read, result⟩ := loaded
  apply triple_exists
  intro m
  -- Only an element that has been copied is handed back.
  have hnothing : result.items = [] → (ringContract laws copying .consumer).Triple
      (RingLoaded laws copying before n read result m) (pure result)
      fun result => RingTakeEnded laws copying before n (.pop result) := by
    intro hitems
    refine triple_pure ringTakeEnded_kept fun s _ h hw => ?_
    obtain ⟨hle, heq⟩ := h.result_eq hw
    refine ⟨m, h.view_ge, h.view_le, le_rfl, hle, heq, ?_⟩
    rw [← heq, hitems, List.append_nil]
    exact h.before_eq.symm
  cases result with
  | empty => exact hnothing rfl
  | threw => exact hnothing rfl
  | took item =>
    refine Triple.bind hstable
      (Q := fun _ => RingTakeEnded laws copying before n (.pop (.took item)))
      (triple_modify ringLoaded_kept ringTakeEnded_kept fun s hi h => ?_)
      fun _ => triple_pure ringTakeEnded_kept fun _ _ h => h
    have hitem : laws.within s.history.pushed.length →
        (s.history.pushed.take m)[before.length]? = some item :=
      fun hw => copying.take_eq_took (h.result_eq hw).2.symm
    have hfront : laws.within s.history.pushed.length →
        s.history.pushed[s.history.popped.length]? = some item := by
      intro hw
      have hget := hitem hw
      have hlt := (List.getElem?_eq_some_iff.mp hget).1.trans_le (List.length_take_le ..)
      rwa [List.getElem?_take_of_lt hlt, h.before_eq] at hget
    have hread : read = s.read := h.read_eq
    refine ⟨ringGuar_consumer rfl ?_ fun hw => ?_, fun hw => ?_, fun hw => ?_⟩
    · show s.history.popped.length ≤ (s.history.popped ++ [item]).length
      rw [List.length_append]
      exact Nat.le_add_right _ _
    · obtain ⟨hlt, hget⟩ := List.getElem?_eq_some_iff.mp (hfront hw)
      show FifoStep capacity (s.history.pushed.drop s.history.popped.length)
        (s.history.pushed.drop (s.history.popped ++ [item]).length)
      rw [List.length_append, List.length_singleton, List.drop_eq_getElem_cons hlt]
      exact .pop
    · rw [hread]
      exact (hi hw).release hw (hfront hw)
    · obtain ⟨hle, heq⟩ := h.result_eq hw
      refine ⟨m, h.view_ge, h.view_le, le_rfl, hle, heq, ?_⟩
      show s.history.popped ++ [item] = _
      rw [show (s.release (ring.next read) item).history.pushed = s.history.pushed from rfl, ← heq,
        h.before_eq]
      rfl

/-- **A peek** obeys the contract of the consumer, and is that of a bounded queue. -/
theorem peek_safe : (ringContract laws copying .consumer).Triple (RingTakeBegun before n)
    (ring.peek copying) fun result => RingTakeEnded laws copying before n (.peek result) := by
  have hstable := ringContract_stable laws copying .consumer
  refine loadFront_safe.bind hstable fun loaded => ?_
  obtain ⟨read, result⟩ := loaded
  apply triple_exists
  intro m
  refine triple_pure ringTakeEnded_kept fun s _ h hw => ?_
  obtain ⟨hle, heq⟩ := h.result_eq hw
  exact ⟨m, h.view_ge, h.view_le, le_rfl, hle, heq, h.before_eq.symm⟩

end

/-! ## Calls with their records -/

/-- The calls that the threads have made account for all that they have changed. -/
def ringIdle : RingThread → Ring C T → Prop
  | .producer, s => CallRecord.Leads [] s.history.pushes s.history.pushed
  | .consumer, s => CallRecord.Leads [] s.history.takes s.history.popped

theorem ringPushLog_kept (before : List T) : (ringContract laws copying .producer).Kept
    fun s => CallRecord.Leads [] s.history.pushes before := by
  rintro ⟨_, _, _, ⟨⟩⟩ ⟨_, _, _, ⟨⟩⟩ h ⟨hpart, -⟩ -
  cases hpart
  exact h

theorem ringTakeLog_kept (before : List T) : (ringContract laws copying .consumer).Kept
    fun s => CallRecord.Leads [] s.history.takes before := by
  rintro ⟨_, _, _, ⟨⟩⟩ ⟨_, _, _, ⟨⟩⟩ h ⟨hpart, -⟩ -
  cases hpart
  exact h

theorem ringIdle_kept (i : RingThread) :
    (ringContract laws copying i).Kept (ringIdle i) := by
  cases i with
  | producer =>
    rintro ⟨_, _, _, ⟨⟩⟩ ⟨_, _, _, ⟨⟩⟩ h ⟨hpart, -⟩ -
    cases hpart
    exact h
  | consumer =>
    rintro ⟨_, _, _, ⟨⟩⟩ ⟨_, _, _, ⟨⟩⟩ h ⟨hpart, -⟩ -
    cases hpart
    exact h

theorem onSlot_preserves {τ : Type} {v : Ring C T → τ}
    (hv : ∀ s slot x, v (s.setSlot slot x) = v s) (slot : ℕ) (p : Prog T α) :
    (Ring.onSlot slot p).Preserves v := by
  induction p with
  | pure a => exact Prog.preserves_pure a
  | access f next ih => exact fun s => ⟨hv .., ih _⟩

theorem push_preserves (item : T) :
    (ring.push copying item).Preserves fun s => s.history.pushes := by
  refine Prog.preserves_read_bind fun write => Prog.preserves_read_bind fun read =>
    Prog.preserves_ite (Prog.preserves_pure _) ?_
  refine (onSlot_preserves (fun _ _ _ => rfl) _ _).bind fun assigned =>
    Prog.preserves_ite ?_ (Prog.preserves_pure _)
  exact Prog.preserves_modify_bind (fun _ => rfl) fun _ => Prog.preserves_pure _

theorem loadFront_preserves : (ring.loadFront copying).Preserves fun s => s.history.takes := by
  refine Prog.preserves_read_bind fun read => Prog.preserves_read_bind fun write =>
    Prog.preserves_ite (Prog.preserves_pure _) ?_
  refine (onSlot_preserves (fun _ _ _ => rfl) _ _).bind fun loaded => ?_
  cases loaded with
  | none => exact Prog.preserves_pure _
  | some item => exact Prog.preserves_pure _

theorem pop_preserves : (ring.pop copying).Preserves fun s => s.history.takes := by
  refine loadFront_preserves.bind fun loaded => ?_
  obtain ⟨read, result⟩ := loaded
  cases result with
  | empty => exact Prog.preserves_pure _
  | threw => exact Prog.preserves_pure _
  | took item => exact Prog.preserves_modify_bind (fun _ => rfl) fun _ => Prog.preserves_pure _

/-- **A call of the producer**, with its record. -/
theorem pushing_safe (item : T) : (ringContract laws copying .producer).Triple
    (ringIdle .producer) (RingCall.program ring copying (.push item))
    fun _ => ringIdle .producer := by
  have hstable := ringContract_stable laws copying .producer
  refine Triple.recorded
    (B := fun before n s => RingPushBegun before n s ∧
      CallRecord.Leads [] s.history.pushes before)
    (E := fun before n returned s => RingPushEnded laws copying before n returned s ∧
      CallRecord.Leads [] s.history.pushes before)
    hstable (fun s => ringGuar_refl _ s) (ringIdle_kept _)
    (fun before _ => ringPushBegun_kept.and (ringPushLog_kept before))
    (fun before _ _ => ringPushEnded_kept.and (ringPushLog_kept before)) ?_ (fun before n => ?_) ?_
  · exact fun s _ h => ⟨⟨rfl, le_rfl⟩, h⟩
  · refine Triple.frame (v := fun s => s.history.pushes) ?_ ?_ (ringPushLog_kept before)
      fun s s' hlog h => hlog ▸ h
    · refine Triple.bind hstable (triple_read (fun s => ringGuar_refl _ s) ringPushBegun_kept
        (Q := fun object s => RingPushBegun before n s ∧ object = s.data (ring.slot s.write))
        (fun _ => ringPushObject_kept) fun s _ h => ⟨h, rfl⟩) fun object => ?_
      exact (push_safe item).bind hstable fun outcome =>
        triple_pure ringPushEnded_kept fun _ _ h => h
    · exact Prog.preserves_read_bind fun _ =>
        (push_preserves item).bind fun _ => Prog.preserves_pure _
  · intro before n returned s hi h
    refine ⟨ringGuar_producer rfl List.prefix_rfl fun _ => .stay _, fun hw => ?_, rfl, h.2⟩
    exact { hi hw with pushes := List.forall_mem_cons.mpr ⟨h.1 hw, (hi hw).pushes⟩ }

/-- **A call of the consumer**, with its record. -/
theorem taking_safe {call : Prog (Ring C T) (RingTakeReturn T)}
    (hcall : ∀ before n, (ringContract laws copying .consumer).Triple (RingTakeBegun before n) call
      (RingTakeEnded laws copying before n))
    (hlog : call.Preserves fun s => s.history.takes) :
    (ringContract laws copying .consumer).Triple (ringIdle .consumer)
      (recorded (·.history.popped) (·.history.pushed.length) Ring.endTake call)
      fun _ => ringIdle .consumer := by
  refine Triple.recorded (ringContract_stable laws copying .consumer)
    (fun s => ringGuar_refl _ s) (ringIdle_kept _)
    (fun before _ => ringTakeBegun_kept.and (ringTakeLog_kept before))
    (fun before _ _ => ringTakeEnded_kept.and (ringTakeLog_kept before)) ?_
    (fun before n => (hcall before n).frame hlog (ringTakeLog_kept before)
      fun s s' htakes h => htakes ▸ h) ?_
  · exact fun s _ h => ⟨⟨rfl, le_rfl⟩, h⟩
  · intro before n returned s hi h
    refine ⟨ringGuar_consumer rfl le_rfl fun _ => .stay _, fun hw => ?_, rfl, h.2⟩
    exact { hi hw with takes := List.forall_mem_cons.mpr ⟨h.1 hw, (hi hw).takes⟩ }

/-! ## Every interleaving -/

/-- The producer and the consumer of a ring. -/
def ringDiscipline (laws : RingLaws ring capacity) (copying : Copying T) :
    Discipline (ringMachine ring copying) where
  inv := RingSound laws copying
  rely := ringRely
  guar := ringGuar laws
  idle := ringIdle
  rely_refl := ringRely_refl
  rely_trans := ringRely_trans
  compatible hij _ _ hg := hg.1 _ hij.symm
  idle_stable {i s s'} h hr hi := by
    have hkept : (ringContract laws copying i).Kept (ringIdle i) := ringIdle_kept i
    exact hkept s s' h hr hi
  call_safe call s hi h := by
    have hstable := ringContract_stable laws copying .consumer
    cases call with
    | push item => exact pushing_safe item s hi h
    | pop =>
      refine taking_safe (fun before n => pop_safe.bind hstable fun result =>
        triple_pure ringTakeEnded_kept fun _ _ h => h) ?_ s hi h
      exact pop_preserves.bind fun _ => Prog.preserves_pure _
    | peek =>
      refine taking_safe (fun before n => peek_safe.bind hstable fun result =>
        triple_pure ringTakeEnded_kept fun _ _ h => h) ?_ s hi h
      exact (loadFront_preserves.bind fun _ => Prog.preserves_pure _).bind
        fun _ => Prog.preserves_pure _

/-- A ring that is a bounded first-in first-out queue. -/
structure RingIsFifo (capacity : ℕ) (copying : Copying T) (p : Pool RingThread (Ring C T)) :
    Prop where
  /-- What was popped is what was pushed first, in order. -/
  popped_pushed : p.state.history.popped <+: p.state.history.pushed
  size_le : p.state.size ≤ capacity
  /-- Each push returned, and changed, what a bounded queue does: nothing if the ring was full, and
  otherwise it took the object, unless the assignment threw. -/
  pushes : ∀ r ∈ p.state.history.pushes, RingPushRecord.Valid capacity copying r
  /-- Each pop and peek returned the oldest element, if there was one, unless the copy threw. -/
  takes : ∀ r ∈ p.state.history.takes, RingTakeRecord.Valid copying p.state.history.pushed r
  /-- The calls that a thread has made account for all that it has changed. -/
  pushLog : p.thread .producer = none →
    CallRecord.Leads [] p.state.history.pushes p.state.history.pushed
  takeLog : p.thread .consumer = none →
    CallRecord.Leads [] p.state.history.takes p.state.history.popped
  /-- Each access is a step of a bounded queue, or none. -/
  step : ∀ i, FifoStep capacity p.state.contents (p.access i).state.contents

variable {moves : List (Move RingThread (RingCall T))} {data : ℕ → T}

theorem ringRun_sound (laws : RingLaws ring capacity) (copying : Copying T) (data : ℕ → T)
    (moves : List (Move RingThread (RingCall T))) :
    (ringDiscipline laws copying).Sound (ringRun ring copying data moves) := by
  have hinit : (ringDiscipline laws copying).Sound (Pool.idle (ring.make data)) := by
    refine Discipline.sound_idle (fun _ => ?_) fun i => ?_
    · exact ⟨laws.cursor_zero.symm, laws.cursor_zero.symm, List.prefix_rfl, Nat.zero_le _, nofun,
        nofun, nofun⟩
    · cases i <;> exact rfl
  exact hinit.run moves

/-- **Refinement.** -/
theorem ringRun_isFifo (laws : RingLaws ring capacity) (copying : Copying T)
    (hafter : ∀ i, laws.within
      ((ringRun ring copying data moves).access i).state.history.pushed.length) :
    RingIsFifo capacity copying (ringRun ring copying data moves) := by
  have hsound := ringRun_sound laws copying data moves
  have hwithin : laws.within (ringRun ring copying data moves).state.history.pushed.length := by
    -- The consumer pushes nothing.
    rcases hsound.access_guar .consumer with hsame | hguar
    · exact hsame ▸ hafter .consumer
    · have hpart := (hguar.1 .producer (by decide)).1
      simp only [ringProducerPart, Prod.mk.injEq] at hpart
      exact hpart.2.2.1 ▸ hafter .consumer
  have hi := hsound.inv hwithin
  constructor
  case popped_pushed => exact hi.popped_pushed
  case size_le =>
    have hsize := hi.size_le
    unfold Ring.size
    omega
  case pushes => exact hi.pushes
  case takes => exact hi.takes
  case pushLog =>
    intro ht
    have hidle := hsound.thread .producer
    rwa [ht] at hidle
  case takeLog =>
    intro ht
    have hidle := hsound.thread .consumer
    rwa [ht] at hidle
  case step =>
    intro i
    rcases hsound.access_guar i with hsame | hguar
    · rw [hsame]
      exact .stay _
    · exact hguar.2 (hafter i)

end

end Concurrency
