import Mathlib.Algebra.Order.Ring.Int
import Anasa.Concurrency.CursorRing
import Anasa.Model.SpscQueue

/-!
# The two queues that `SpscQueue` replaced

`old1::SpscQueue` counts with `std::size_t` cursors that wrap and reduces them to a slot at each
access; `old2::SpscQueue` keeps its `int` cursors below the capacity and leaves one slot empty.
Both copy an object into its slot and out of it again, and both are a `CursorRing`: `push`, `pop`
and `peek` load the cursors in the same order and differ in how these count only.
-/

namespace Anasa

open Concurrency

variable {T : Type}

/-! ## Cursors that wrap -/

namespace Old1

def isFull (capacity write read : UInt64) : Bool := write - read == capacity

def isEmpty (write read : UInt64) : Bool := write == read

/-- The index of `element`. -/
def element (capacity cursor : UInt64) : UInt64 := cursor % capacity

/-- The cursors of `old1::SpscQueue`. -/
def cursors (capacity : SpscCapacity) : CursorRing UInt64 where
  zero := 0
  next cursor := cursor + 1
  isFull := isFull capacity.capacity
  isEmpty := isEmpty
  slot cursor := (element capacity.capacity cursor).toNat

/-- A producer and a consumer of `old1::SpscQueue`, whose slots were constructed as `data`. -/
def spscRun (capacity : SpscCapacity) (copying : Copying T) (data : ℕ → T)
    (moves : List (Move RingThread (RingCall T))) : Pool RingThread (Ring UInt64 T) :=
  ringRun (cursors capacity) copying data moves

end Old1

/-! ## Cursors below the capacity -/

namespace Old2

/-- A capacity for which the array has a slot: `int capacity`. -/
structure Capacity where
  capacity : ℤ
  positive : 0 < capacity
  isInt : capacity < 2 ^ 31

/-- `(cursor + 1) % capacity`. -/
def next (capacity cursor : ℤ) : ℤ := (cursor + 1) % capacity

def isFull (capacity write read : ℤ) : Bool := next capacity write == read

def isEmpty (write read : ℤ) : Bool := read == write

def usableCapacity (capacity : ℤ) : ℤ := capacity - 1

/-- The cursors of `old2::SpscQueue`. -/
def cursors (capacity : Capacity) : CursorRing ℤ where
  zero := 0
  next := next capacity.capacity
  isFull := isFull capacity.capacity
  isEmpty := isEmpty
  slot := Int.toNat

/-- A producer and a consumer of `old2::SpscQueue`, whose slots were constructed as `data`. -/
def spscRun (capacity : Capacity) (copying : Copying T) (data : ℕ → T)
    (moves : List (Move RingThread (RingCall T))) : Pool RingThread (Ring ℤ T) :=
  ringRun (cursors capacity) copying data moves

end Old2

end Anasa
