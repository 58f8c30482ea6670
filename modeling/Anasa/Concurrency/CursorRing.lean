import Mathlib.Data.List.Infix
import Anasa.Concurrency.CallRecord

/-!
# A ring of slots with two cursors

A producer assigns an object to the slot of its cursor and then stores the next cursor; a consumer
copies the object out of the slot of its own cursor and then stores the next one. `CursorRing` is
how the cursors count: which cursor follows, when the ring is full or empty, and where the slot of
a cursor is.

Copying is not atomic: `Copying` is an assignment and a load, each of them a program over the
object, and either may throw. `RingLaws` relates the cursors to positions that never wrap, as long
as they stay `within` what the cursors can tell apart.
-/

namespace Concurrency

variable {C T α : Type}

/-! ## Definitions -/

/-- How cursors count. -/
structure CursorRing (C : Type) where
  zero : C
  next : C → C
  isFull (write read : C) : Bool
  isEmpty (write read : C) : Bool
  slot : C → ℕ

/-- How an object is copied. -/
structure Copying (T : Type) where
  /-- `destination = item`; `false` if it throws. -/
  assign : T → Prog T Bool
  /-- `item = source`; `none` if it throws. -/
  load : Prog T (Option T)
  assign_eq : ∀ item x, ((assign item).run x).1 = true → ((assign item).run x).2 = item
  load_preserves : load.Preserves id
  load_eq : ∀ x y, (load.run x).1 = some y → y = x

/-- Copies in one access that never throw. -/
def Copying.atomic (T : Type) : Copying T where
  assign item := .atomically fun _ => (true, item)
  load := .read some
  assign_eq _ _ _ := rfl
  load_preserves := Prog.preserves_read _
  load_eq _ _ h := (Option.some.inj h).symm

/-- How a push ended. -/
inductive RingPush where
  | full
  | threw
  | pushed
  deriving DecidableEq, Repr

/-- How a pop or a peek ended. -/
inductive RingTake (T : Type) where
  | empty
  | threw
  | took (item : T)
  deriving DecidableEq, Repr

/-- What the caller of a push knows: its object, the one in the slot before, and how the call
ended. -/
structure RingPushReturn (T : Type) where
  item : T
  object : T
  outcome : RingPush
  deriving DecidableEq, Repr

/-- What the consumer gets from a call. -/
inductive RingTakeReturn (T : Type) where
  | pop (result : RingTake T)
  | peek (result : RingTake T)
  deriving DecidableEq, Repr

/-- A finished push, with the elements pushed before and after it. -/
abbrev RingPushRecord (T : Type) := CallRecord (RingPushReturn T) (List T)

/-- A finished pop or peek, with the elements popped before and after it. -/
abbrev RingTakeRecord (T : Type) := CallRecord (RingTakeReturn T) (List T)

/-- History of a ring. -/
structure RingHistory (T : Type) where
  pushed : List T := []
  popped : List T := []
  pushes : List (RingPushRecord T) := []
  takes : List (RingTakeRecord T) := []

structure Ring (C T : Type) where
  data : ℕ → T
  write : C
  read : C
  history : RingHistory T := {}

namespace Ring

variable (s : Ring C T)

/-- The number of elements. -/
def size : ℕ := s.history.pushed.length - s.history.popped.length

/-- The elements, the oldest first. -/
def contents : List T := s.history.pushed.drop s.history.popped.length

@[simp] theorem length_contents : s.contents.length = s.size := List.length_drop

/-- `_data[slot] = x`. -/
def setSlot (slot : ℕ) (x : T) : Ring C T := { s with data := Function.update s.data slot x }

/-- The cursor of the producer is stored after an element. -/
def publish (write : C) (item : T) : Ring C T :=
  { s with write, history.pushed := s.history.pushed ++ [item] }

/-- The cursor of the consumer is stored after an element. -/
def release (read : C) (item : T) : Ring C T :=
  { s with read, history.popped := s.history.popped ++ [item] }

/-- A push has returned or thrown. -/
def endPush (r : RingPushRecord T) : Ring C T :=
  { s with history.pushes := r :: s.history.pushes }

/-- A pop or a peek has returned or thrown. -/
def endTake (r : RingTakeRecord T) : Ring C T :=
  { s with history.takes := r :: s.history.takes }

/-- A program over the object in a slot. -/
def onSlot (slot : ℕ) : Prog T α → Prog (Ring C T) α
  | .pure a => .pure a
  | .access f k => .access (fun s => s.setSlot slot (f (s.data slot)))
      fun s => onSlot slot (k (s.data slot))

end Ring

namespace CursorRing

variable (ring : CursorRing C)

/-- An empty ring. -/
def make (data : ℕ → T) : Ring C T := ⟨data, ring.zero, ring.zero, {}⟩

/-- Assign an object to the next slot and publish it. -/
def push (copying : Copying T) (item : T) : Prog (Ring C T) RingPush := do
  let write ← .read (·.write)
  let read ← .read (·.read)
  if ring.isFull write read then return .full
  else if ← Ring.onSlot (ring.slot write) (copying.assign item) then
    .modify (·.publish (ring.next write) item)
    return .pushed
  else return .threw

/-- Load the cursors, and copy the oldest object; with the cursor of the consumer. -/
def loadFront (copying : Copying T) : Prog (Ring C T) (C × RingTake T) := do
  let read ← .read (·.read)
  let write ← .read (·.write)
  if ring.isEmpty write read then return (read, .empty)
  else
    match ← Ring.onSlot (ring.slot read) copying.load with
    | none => return (read, .threw)
    | some item => return (read, .took item)

/-- Copy the oldest object and hand its slot back. -/
def pop (copying : Copying T) : Prog (Ring C T) (RingTake T) := do
  match ← ring.loadFront copying with
  | (read, .took item) =>
    .modify (·.release (ring.next read) item)
    return .took item
  | (_, result) => return result

/-- Copy the oldest object. -/
def peek (copying : Copying T) : Prog (Ring C T) (RingTake T) := do
  let (_, result) ← ring.loadFront copying
  return result

end CursorRing

/-! ## Threads -/

inductive RingThread where
  | producer
  | consumer
  deriving DecidableEq, Repr

inductive RingCall (T : Type) where
  | push (item : T)
  | pop
  | peek

namespace RingCall

def thread : RingCall T → RingThread
  | .push _ => .producer
  | .pop => .consumer
  | .peek => .consumer

/-- The call and what its caller sees of it. -/
def program (ring : CursorRing C) (copying : Copying T) : RingCall T → Prog (Ring C T) Unit
  | .push item => recorded (·.history.pushed) (·.history.popped.length) Ring.endPush do
    let object ← .read fun s => s.data (ring.slot s.write)
    let outcome ← ring.push copying item
    return ⟨item, object, outcome⟩
  | .pop => recorded (·.history.popped) (·.history.pushed.length) Ring.endTake do
    let result ← ring.pop copying
    return .pop result
  | .peek => recorded (·.history.popped) (·.history.pushed.length) Ring.endTake do
    let result ← ring.peek copying
    return .peek result

end RingCall

/-- One producer and one consumer. -/
def ringMachine (ring : CursorRing C) (copying : Copying T) :
    Machine RingThread (RingCall T) (Ring C T) :=
  ⟨RingCall.thread, RingCall.program ring copying⟩

section

variable (ring : CursorRing C) (copying : Copying T) (s : Ring C T)

theorem ringMachine_push_run (item : T) : ∃ r,
    (((ringMachine ring copying).program (.push item)).run s).2 =
      ((ring.push copying item).run s).2.endPush r := by
  simp only [ringMachine, RingCall.program, recorded_run, Prog.run_bind, Prog.run_read,
    Prog.run_pure]
  exact ⟨_, rfl⟩

theorem ringMachine_pop_run : ∃ r,
    (((ringMachine ring copying).program .pop).run s).2 =
      ((ring.pop copying).run s).2.endTake r := by
  simp only [ringMachine, RingCall.program, recorded_run, Prog.run_bind, Prog.run_pure]
  exact ⟨_, rfl⟩

end

/-- The pool reached from an empty ring: every interleaving of accesses. -/
def ringRun (ring : CursorRing C) (copying : Copying T) (data : ℕ → T)
    (moves : List (Move RingThread (RingCall T))) : Pool RingThread (Ring C T) :=
  Pool.run (ringMachine ring copying) moves (Pool.idle (ring.make data))

/-! ## Laws -/

/-- The cursors tell apart the positions of a ring with so many elements at most. -/
structure RingLaws (ring : CursorRing C) (capacity : ℕ) where
  /-- The cursor of a position. -/
  cursor : ℕ → C
  /-- The positions for which the cursors are right. -/
  within : ℕ → Prop
  within_le : ∀ {m n}, m ≤ n → within n → within m
  cursor_zero : cursor 0 = ring.zero
  next_cursor : ∀ n, within (n + 1) → ring.next (cursor n) = cursor (n + 1)
  isFull_iff : ∀ m n, m ≤ n → n ≤ m + capacity → within n →
    (ring.isFull (cursor n) (cursor m) = true ↔ n = m + capacity)
  isEmpty_iff : ∀ m n, m ≤ n → n ≤ m + capacity → within n →
    (ring.isEmpty (cursor n) (cursor m) = true ↔ n = m)
  slot_ne : ∀ m n, m < n → n < m + capacity → within n →
    ring.slot (cursor m) ≠ ring.slot (cursor n)

/-! ## What calls return -/

/-- What a pop or a peek returns if `next` is the oldest element, if there is one. -/
def Copying.take (copying : Copying T) : Option T → RingTake T
  | none => .empty
  | some x => if (copying.load.run x).1.isSome then .took x else .threw

theorem Copying.elim_load (copying : Copying T) (x : T) :
    (copying.load.run x).1.elim .threw .took = copying.take (some x) := by
  have heq := copying.load_eq x
  unfold take
  cases hload : (copying.load.run x).1 with
  | none => simp [hload]
  | some y =>
    rw [hload] at heq
    obtain rfl := heq y rfl
    simp [hload]

theorem Copying.take_eq_took {copying : Copying T} {next : Option T} {item : T}
    (h : copying.take next = .took item) : next = some item := by
  unfold take at h
  cases next with
  | none => cases h
  | some x =>
    dsimp only at h
    split at h
    · cases h
      rfl
    · cases h

/-- The elements that a pop takes. -/
def RingTake.items : RingTake T → List T
  | .took item => [item]
  | _ => []

/-- A finished push did what a bounded queue does: it loaded `read` when `k` elements had been
popped, and assigned its object if there was room. -/
def RingPushRecord.Valid (capacity : ℕ) (copying : Copying T) (r : RingPushRecord T) : Prop :=
  ∃ k, r.othersBefore ≤ k ∧ k ≤ r.othersAfter ∧ r.before.length ≤ k + capacity ∧
    (r.returned.outcome, r.after) =
      if r.before.length = k + capacity then (.full, r.before)
      else if ((copying.assign r.returned.item).run r.returned.object).1 then
        (.pushed, r.before ++ [r.returned.item])
      else (.threw, r.before)

/-- What a pop or a peek returns, and what a pop takes. -/
def RingTakeReturn.Matches (result : RingTake T) (before after : List T) :
    RingTakeReturn T → Prop
  | .pop returned => returned = result ∧ after = before ++ result.items
  | .peek returned => returned = result ∧ after = before

/-- A finished pop or peek did what a bounded queue does: it loaded `write` when `m` elements had
been pushed, and copied the next one, if it was among them. -/
def RingTakeRecord.Valid (copying : Copying T) (pushed : List T) (r : RingTakeRecord T) : Prop :=
  ∃ m, r.othersBefore ≤ m ∧ m ≤ r.othersAfter ∧ r.othersAfter ≤ pushed.length ∧
    r.before.length ≤ m ∧
    r.returned.Matches (copying.take (pushed.take m)[r.before.length]?) r.before r.after

/-- One step of a bounded first-in first-out queue, or none. -/
inductive FifoStep (capacity : ℕ) : List T → List T → Prop where
  | stay (xs : List T) : FifoStep capacity xs xs
  | push {xs : List T} (x : T) (h : xs.length < capacity) : FifoStep capacity xs (xs ++ [x])
  | pop {x : T} {xs : List T} : FifoStep capacity (x :: xs) xs

end Concurrency
