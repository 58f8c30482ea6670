import Anasa.Concurrency.CursorRingSound
import Anasa.Model.SpscQueueOld
import Anasa.Queues.SpscLayout

/-!
# The former queues

`old2::SpscQueue` is a bounded queue of `capacity - 1` elements, in every interleaving. So is
`old1::SpscQueue`, of `capacity` elements, until its cursors wrap: past `2 ^ 64` elements the slot
of a cursor is the slot of its position only if the capacity divides `2 ^ 64`. Otherwise two
elements of one queue share a slot.
-/

namespace Anasa

open Concurrency

variable {T : Type}

/-! ## Cursors below the capacity -/

namespace Old2

theorem next_mod (capacity : ℤ) (n : ℕ) :
    next capacity ((n : ℤ) % capacity) = ((n + 1 : ℕ) : ℤ) % capacity := by
  unfold next
  rw [Int.emod_add_emod, Nat.cast_add, Nat.cast_one]

/-- Positions less than the capacity apart have different remainders. -/
theorem mod_ne {capacity : ℤ} {m n : ℕ} (h₀ : m < n) (h₁ : (n : ℤ) < m + capacity) :
    (m : ℤ) % capacity ≠ (n : ℤ) % capacity := by
  intro h
  have hdvd := Int.dvd_of_emod_eq_zero (Int.emod_eq_emod_iff_emod_sub_eq_zero.mp h.symm)
  have := Int.le_of_dvd (by omega) hdvd
  omega

/-- `old2::SpscQueue` is a ring of `capacity - 1` elements. -/
def laws (capacity : Capacity) :
    RingLaws (cursors capacity) (usableCapacity capacity.capacity).toNat where
  cursor n := (n : ℤ) % capacity.capacity
  within _ := True
  within_le _ _ := trivial
  cursor_zero := Int.zero_emod _
  next_cursor n _ := next_mod capacity.capacity n
  isFull_iff m n h₀ h₁ _ := by
    have hpos := capacity.positive
    unfold usableCapacity at *
    show (next capacity.capacity _ == _) = true ↔ _
    rw [beq_iff_eq, next_mod]
    constructor
    · intro h
      by_contra hne
      exact mod_ne (m := m) (n := n + 1) (by omega) (by omega) h.symm
    · intro h
      rw [show ((n + 1 : ℕ) : ℤ) = m + capacity.capacity by omega, Int.add_emod_right]
  isEmpty_iff m n h₀ h₁ _ := by
    have hpos := capacity.positive
    unfold usableCapacity at *
    show (_ == _) = true ↔ _
    rw [beq_iff_eq]
    constructor
    · intro h
      by_contra hne
      exact mod_ne (m := m) (n := n) (by omega) (by omega) h
    · intro h
      rw [h]
  slot_ne m n h₀ h₁ _ := by
    have hpos := capacity.positive
    have hm := Int.emod_nonneg (m : ℤ) hpos.ne'
    have hn := Int.emod_nonneg (n : ℤ) hpos.ne'
    unfold usableCapacity at h₁
    have hne : (m : ℤ) % capacity.capacity ≠ (n : ℤ) % capacity.capacity :=
      mod_ne h₀ (by omega)
    show ((m : ℤ) % capacity.capacity).toNat ≠ ((n : ℤ) % capacity.capacity).toNat
    omega

end Old2

/-- **One empty slot.** In every interleaving of a producer and a consumer, whose copies may throw,
`old2::SpscQueue` is a first-in first-out queue of `usableCapacity()` elements. -/
theorem old2Run_isFifo (capacity : Old2.Capacity) (copying : Copying T) (data : ℕ → T)
    (moves : List (Move RingThread (RingCall T))) :
    RingIsFifo (Old2.usableCapacity capacity.capacity).toNat copying
      (Old2.spscRun capacity copying data moves) :=
  ringRun_isFifo (Old2.laws capacity) copying fun _ => trivial

/-- A push into a full ring, and a pop during which a push still finds the ring full. -/
def fullRingMoves : List (Move RingThread (RingCall ℕ)) :=
  [.whole .pop, .whole (.push 1), .whole (.push 2), .start .pop] ++
    List.replicate 4 (.access .consumer) ++ [.whole (.push 3)] ++
    List.replicate 3 (.access .consumer) ++ [.whole (.push 4), .whole .peek]

theorem old2Run_isFifo_full :
    RingIsFifo 2 (.atomic ℕ)
      (Old2.spscRun ⟨3, by decide, by decide⟩ (.atomic ℕ) (fun _ => 0) fullRingMoves) ∧
    (Old2.spscRun ⟨3, by decide, by decide⟩ (.atomic ℕ) (fun _ => 0)
      fullRingMoves).state.history.pushes.map (·.returned) =
        [⟨4, 0, .pushed⟩, ⟨3, 0, .full⟩, ⟨2, 0, .pushed⟩, ⟨1, 0, .pushed⟩] ∧
    (Old2.spscRun ⟨3, by decide, by decide⟩ (.atomic ℕ) (fun _ => 0)
      fullRingMoves).state.history.takes.map (·.returned) =
        [.peek (.took 2), .pop (.took 1), .pop .empty] :=
  ⟨old2Run_isFifo ⟨3, by decide, by decide⟩ _ _ _, by decide, by decide⟩

/-! ## Cursors that wrap -/

namespace Old1

variable {capacity : SpscCapacity}

theorem slot_ofNat (n : ℕ) :
    (cursors capacity).slot (.ofNat n) = n % 2 ^ 64 % capacity.capacity.toNat := by
  show (element capacity.capacity (.ofNat n)).toNat = _
  rw [element, UInt64.toNat_mod, UInt64.toNat_ofNat']

theorem next_ofNat (n : ℕ) : (cursors capacity).next (.ofNat n) = .ofNat (n + 1) := by
  show UInt64.ofNat n + 1 = _
  rw [UInt64.ofNat_add]
  rfl

/-- The positions for which `cursor % capacity` is the slot. -/
def Within (capacity : SpscCapacity) (pushed : ℕ) : Prop :=
  capacity.capacity.toNat ∣ 2 ^ 64 ∨ pushed < 2 ^ 64

theorem Within.slot {n : ℕ} (h : Within capacity n) :
    n % 2 ^ 64 % capacity.capacity.toNat = n % capacity.capacity.toNat := by
  rcases h with hdvd | hlt
  · exact Nat.mod_mod_of_dvd n hdvd
  · rw [Nat.mod_eq_of_lt hlt]

theorem Within.mono {m n : ℕ} (hle : m ≤ n) (h : Within capacity n) : Within capacity m :=
  h.imp_right (lt_of_le_of_lt hle)

/-- `old1::SpscQueue` is a ring of `capacity` elements while its slots are right. -/
def laws (capacity : SpscCapacity) : RingLaws (cursors capacity) capacity.capacity.toNat where
  cursor := .ofNat
  within := Within capacity
  within_le := Within.mono
  cursor_zero := rfl
  next_cursor n _ := next_ofNat n
  isFull_iff m n h₀ h₁ _ := by
    refine (Anasa.isFull_iff h₀ h₁).trans ?_
    omega
  isEmpty_iff m n h₀ h₁ _ := Anasa.isEmpty_iff h₀ h₁
  slot_ne m n h₀ h₁ hn := by
    rw [slot_ofNat, slot_ofNat, hn.slot, (hn.mono h₀.le).slot]
    intro h
    have hdvd := Nat.dvd_of_mod_eq_zero (Nat.sub_mod_eq_zero_of_mod_eq h.symm)
    have := Nat.le_of_dvd (by omega) hdvd
    omega

theorem spscRun_isFifo (capacity : SpscCapacity) (copying : Copying T) (data : ℕ → T)
    (moves : List (Move RingThread (RingCall T)))
    (hwithin : ∀ i, Within capacity
      ((spscRun capacity copying data moves).access i).state.history.pushed.length) :
    RingIsFifo capacity.capacity.toNat copying (spscRun capacity copying data moves) :=
  ringRun_isFifo (laws capacity) copying hwithin

/-! ### A run past the wrap -/

/-- A ring between two calls, after the given elements. -/
structure After (pushed popped : List T) (s : Concurrency.Ring UInt64 T) : Prop where
  write : s.write = .ofNat pushed.length
  read : s.read = .ofNat popped.length
  pushed_eq : s.history.pushed = pushed
  popped_eq : s.history.popped = popped

variable (capacity) in
/-- The slot of the element at a position. -/
def slotAt (n : ℕ) : ℕ := n % 2 ^ 64 % capacity.capacity.toNat

variable {s : Concurrency.Ring UInt64 T} {pushed popped : List T}

/-- A push that finds room. -/
theorem After.push (h : After pushed popped s) (hle : popped.length ≤ pushed.length)
    (hroom : pushed.length < popped.length + capacity.capacity.toNat) (item : T) :
    (((cursors capacity).push (.atomic T) item).run s).2 =
      (s.setSlot (slotAt capacity pushed.length) item).publish (.ofNat (pushed.length + 1))
        item := by
  have hfull : ¬(cursors capacity).isFull s.write s.read = true := by
    rw [h.write, h.read]
    intro hfull
    have := (Anasa.isFull_iff hle hroom.le).mp hfull
    omega
  simp only [CursorRing.push, Prog.run_bind, Prog.run_read, hfull, if_false, Copying.atomic,
    Prog.atomically, Ring.onSlot, Prog.run_access, Prog.run_pure', if_true, Prog.run_modify,
    Prog.run_pure, Bool.false_eq_true]
  rw [h.write, slot_ofNat, next_ofNat, slotAt]

/-- A pop that finds an element. -/
theorem After.pop (h : After pushed popped s) (hle : popped.length < pushed.length)
    (hsize : pushed.length ≤ popped.length + capacity.capacity.toNat) :
    (((cursors capacity).pop (.atomic T)).run s).2 =
      s.release (.ofNat (popped.length + 1)) (s.data (slotAt capacity popped.length)) := by
  have hempty : ¬(cursors capacity).isEmpty s.write s.read = true := by
    rw [h.write, h.read]
    intro hempty
    have := (Anasa.isEmpty_iff hle.le hsize).mp hempty
    omega
  have hself : s.setSlot ((cursors capacity).slot s.read) (s.data ((cursors capacity).slot s.read))
      = s := by
    unfold Ring.setSlot
    rw [Function.update_eq_self]
  simp only [CursorRing.pop, CursorRing.loadFront, Prog.run_bind, hempty, if_false,
    Copying.atomic, Prog.read, Ring.onSlot, Prog.run_access, Prog.run_pure', Prog.run_modify,
    Prog.run_pure, id_eq, hself, Bool.false_eq_true]
  rw [h.read, slot_ofNat, next_ofNat, slotAt]

/-- Elements pushed, and popped at once. -/
def passThrough (item : T) (n : ℕ) : List (Move RingThread (RingCall T)) :=
  (List.replicate n [.whole (.push item), .whole .pop]).flatten

/-- Elements pushed. -/
def pushes (item : T) (n : ℕ) : List (Move RingThread (RingCall T)) :=
  List.replicate n (.whole (.push item))

theorem run_push (capacity : SpscCapacity) (hs : After pushed popped s)
    (hle : popped.length ≤ pushed.length)
    (hroom : pushed.length < popped.length + capacity.capacity.toNat) (item : T) :
    ∃ s', Pool.apply (ringMachine (cursors capacity) (.atomic T)) (.idle s)
        (.whole (.push item)) = .idle s' ∧
      After (pushed ++ [item]) popped s' ∧ s'.data (slotAt capacity pushed.length) = item := by
  obtain ⟨r, hr⟩ := ringMachine_push_run (cursors capacity) (.atomic T) s item
  rw [hs.push hle hroom] at hr
  refine ⟨_, (Pool.apply_whole_idle ..).trans (congrArg _ hr), ?_, Function.update_self ..⟩
  refine ⟨?_, hs.read, ?_, hs.popped_eq⟩
  · rw [List.length_append]
    rfl
  · show s.history.pushed ++ [item] = _
    rw [hs.pushed_eq]

theorem run_pop (capacity : SpscCapacity) (hs : After pushed popped s)
    (hle : popped.length < pushed.length)
    (hsize : pushed.length ≤ popped.length + capacity.capacity.toNat) :
    ∃ s', Pool.apply (ringMachine (cursors capacity) (.atomic T)) (.idle s) (.whole .pop) =
        .idle s' ∧
      After pushed (popped ++ [s.data (slotAt capacity popped.length)]) s' := by
  obtain ⟨r, hr⟩ := ringMachine_pop_run (cursors capacity) (.atomic T) s
  rw [hs.pop hle hsize] at hr
  refine ⟨_, (Pool.apply_whole_idle ..).trans (congrArg _ hr), ?_⟩
  refine ⟨hs.write, ?_, hs.pushed_eq, ?_⟩
  · rw [List.length_append]
    rfl
  · show s.history.popped ++ [_] = _
    rw [hs.popped_eq]

theorem run_passThrough (capacity : SpscCapacity) (data : ℕ → T) (item : T) (n : ℕ) :
    ∃ s, spscRun capacity (.atomic T) data (passThrough item n) = .idle s ∧
      After (List.replicate n item) (List.replicate n item) s := by
  have hpos : 0 < capacity.capacity.toNat := UInt64.lt_iff_toNat_lt.mp capacity.positive
  induction n with
  | zero => exact ⟨_, rfl, rfl, rfl, rfl, rfl⟩
  | succ n ih =>
    obtain ⟨s, hs, hafter⟩ := ih
    obtain ⟨s₁, hs₁, hafter₁, hdata⟩ :=
      run_push capacity hafter le_rfl (Nat.lt_add_of_pos_right hpos) item
    obtain ⟨s₂, hs₂, hafter₂⟩ := run_pop capacity hafter₁ (by simp) (by simp; omega)
    refine ⟨s₂, ?_, ?_⟩
    · unfold passThrough spscRun ringRun at *
      rw [List.replicate_succ', List.flatten_append, Pool.run_append, hs]
      simp only [List.flatten_cons, List.flatten_nil, List.append_nil, Pool.run_cons, Pool.run_nil,
        hs₁, hs₂]
    · rw [hdata, ← List.replicate_succ'] at hafter₂
      exact hafter₂

theorem run_pushes (capacity : SpscCapacity) (hs : After pushed popped s)
    (hle : popped.length ≤ pushed.length) (item : T) (n : ℕ)
    (hroom : pushed.length + n < popped.length + capacity.capacity.toNat) :
    ∃ s', Pool.run (ringMachine (cursors capacity) (.atomic T)) (pushes item (n + 1)) (.idle s) =
        .idle s' ∧
      After (pushed ++ List.replicate (n + 1) item) popped s' ∧
      s'.data (slotAt capacity (pushed.length + n)) = item := by
  induction n with
  | zero => exact run_push capacity hs hle hroom item
  | succ n ih =>
    obtain ⟨s₁, hs₁, hafter₁, -⟩ := ih (by omega)
    obtain ⟨s₂, hs₂, hafter₂, hdata⟩ :=
      run_push capacity hafter₁ (by simp; omega) (by simp; omega) item
    refine ⟨s₂, ?_, ?_, ?_⟩
    · unfold pushes at *
      rw [List.replicate_succ', Pool.run_append, hs₁]
      exact hs₂
    · rw [List.append_assoc, ← List.replicate_succ'] at hafter₂
      exact hafter₂
    · rw [List.length_append, List.length_replicate] at hdata
      exact hdata

/-- Elements that pass through, one that stays, and more after it until one of them takes its
slot; then a pop. -/
def slotTwice (first item : T) (before rest : ℕ) : List (Move RingThread (RingCall T)) :=
  passThrough item before ++ .whole (.push first) :: (pushes item (rest + 1) ++ [.whole .pop])

/-- Two elements in one slot: the pop finds the newer one. -/
theorem run_slotTwice (data : ℕ → T) (first item : T) {before rest : ℕ}
    (hrest : rest + 1 < capacity.capacity.toNat)
    (hslot : slotAt capacity (before + 1 + rest) = slotAt capacity before) :
    ∃ s, spscRun capacity (.atomic T) data (slotTwice first item before rest) = .idle s ∧
      s.history.pushed[before]? = some first ∧ s.history.popped[before]? = some item := by
  obtain ⟨s₀, hs₀, hafter₀⟩ := run_passThrough capacity data item before
  obtain ⟨s₁, hs₁, hafter₁, -⟩ := run_push capacity hafter₀ le_rfl
    (Nat.lt_add_of_pos_right (show 0 < capacity.capacity.toNat by omega)) first
  obtain ⟨s₂, hs₂, hafter₂, hdata⟩ := run_pushes capacity hafter₁
    (by simp) item rest (by simp; omega)
  obtain ⟨s₃, hs₃, hafter₃⟩ := run_pop capacity hafter₂
    (by simp) (by simp; omega)
  simp only [List.length_append, List.length_replicate, List.length_singleton] at hdata hafter₃
  rw [← hslot, hdata] at hafter₃
  refine ⟨s₃, ?_, ?_, ?_⟩
  · unfold spscRun ringRun slotTwice at *
    rw [Pool.run_append, hs₀, Pool.run_cons, hs₁, Pool.run_append, hs₂, Pool.run_cons, hs₃,
      Pool.run_nil]
  · rw [hafter₃.pushed_eq, List.append_assoc, List.getElem?_append_right (by simp)]
    simp
  · rw [hafter₃.popped_eq, List.getElem?_append_right (by simp)]
    simp

/-- Past the wrap, the cursor `rest` has the slot of the last one before it. -/
theorem slotAt_wrap {before rest : ℕ} (hbefore : before + 1 = 2 ^ 64)
    (hrest : 2 ^ 64 % capacity.capacity.toNat = rest + 1)
    (hlt : rest + 1 < capacity.capacity.toNat) :
    slotAt capacity (before + 1 + rest) = slotAt capacity before := by
  have hcap := capacity.capacity.toNat_lt
  have hsplit := Nat.div_add_mod (2 ^ 64) capacity.capacity.toNat
  unfold slotAt
  rw [hbefore, Nat.add_mod_left, Nat.mod_eq_of_lt (a := rest) (b := 2 ^ 64) (by omega),
    Nat.mod_eq_of_lt (a := before) (by omega), Nat.mod_eq_of_lt (a := rest) (by omega),
    show before = rest + capacity.capacity.toNat * (2 ^ 64 / capacity.capacity.toNat) by omega,
    Nat.add_mul_mod_self_left, Nat.mod_eq_of_lt (by omega)]

/-- A capacity that does not divide `2 ^ 64` loses an element. -/
theorem spscRun_loses (capacity : SpscCapacity) (first item : T)
    (hdvd : ¬capacity.capacity.toNat ∣ 2 ^ 64) :
    ∃ (moves : List (Move RingThread (RingCall T))) (s : Concurrency.Ring UInt64 T),
      spscRun capacity (.atomic T) (fun _ => first) moves = .idle s ∧
      ∃ n : ℕ, s.history.pushed[n]? = some first ∧ s.history.popped[n]? = some item := by
  have hpos : 0 < capacity.capacity.toNat := UInt64.lt_iff_toNat_lt.mp capacity.positive
  have hlt := Nat.mod_lt (2 ^ 64) hpos
  obtain ⟨rest, hrest⟩ :=
    Nat.exists_eq_succ_of_ne_zero fun h => hdvd (Nat.dvd_of_mod_eq_zero h)
  obtain ⟨before, hbefore⟩ : ∃ before, before + 1 = 2 ^ 64 := ⟨_, Nat.sub_add_cancel (by norm_num)⟩
  rw [hrest] at hlt
  obtain ⟨s, hs, hpushed, hpopped⟩ :=
    run_slotTwice (fun _ => first) first item hlt (slotAt_wrap hbefore hrest hlt)
  exact ⟨_, s, hs, before, hpushed, hpopped⟩

end Old1

/-- **Counters that wrap.** `old1::SpscQueue` is a first-in first-out queue of `capacity` elements
for fewer than `2 ^ 64` of them. Beyond that it is one in every interleaving exactly if its
capacity divides `2 ^ 64`. -/
theorem old1Run_isFifo [Nontrivial T] (capacity : SpscCapacity) :
    (∀ (copying : Copying T) data moves,
      (∀ i, ((Old1.spscRun capacity copying data moves).access i).state.history.pushed.length <
        2 ^ 64) →
      RingIsFifo capacity.capacity.toNat copying (Old1.spscRun capacity copying data moves)) ∧
    ((∀ (copying : Copying T) data moves,
      RingIsFifo capacity.capacity.toNat copying (Old1.spscRun capacity copying data moves)) ↔
        capacity.capacity.toNat ∣ 2 ^ 64) := by
  refine ⟨fun copying data moves hfew => Old1.spscRun_isFifo _ _ _ _ fun i => .inr (hfew i),
    fun h => ?_, fun h copying data moves => Old1.spscRun_isFifo _ _ _ _ fun _ => .inl h⟩
  by_contra hdvd
  obtain ⟨first, item, hne⟩ := exists_pair_ne T
  obtain ⟨moves, s, hs, n, hpushed, hpopped⟩ := Old1.spscRun_loses capacity first item hdvd
  have hinitial := (h (.atomic T) (fun _ => first) moves).popped_pushed
  rw [hs] at hinitial
  have hsame := getElem?_of_isPrefix hinitial (List.getElem?_eq_some_iff.mp hpopped).1
  exact hne (Option.some.inj ((hpushed.symm.trans hsame).trans hpopped))

theorem old1Run_isFifo_three :
    ¬∀ (copying : Copying Bool) data moves,
      RingIsFifo 3 copying (Old1.spscRun ⟨3, by decide⟩ copying data moves) :=
  mt (old1Run_isFifo ⟨3, by decide⟩).2.mp (by decide)

end Anasa
