import Anasa.Concurrency.CallRecord

/-!
# The queue of one producer and one consumer

`SpscQueue`, with every load, fill, slot advance and counter store an access of its own. The
counters `_write` and `_read` are `std::size_t` and wrap; the slots `_writeSlot` and `_readSlot`
say where the next element goes and where the oldest one is.

A fill is a program over one object: its accesses write the object in place, and its result says
whether it returned (`true`) or threw.
-/

namespace Anasa

open Concurrency

variable {T α : Type}

structure SpscQueue (T : Type) where
  capacity : UInt64
  data : UInt64 → T
  write : UInt64 := 0
  writeSlot : UInt64 := 0
  read : UInt64 := 0
  readSlot : UInt64 := 0

/-- A capacity that `validateCapacity` accepts. -/
structure SpscCapacity where
  capacity : UInt64
  positive : 0 < capacity

/-! ## History -/

inductive PushOutcome where
  | full
  | threw
  | pushed
  deriving DecidableEq, Repr

/-- What the producer alone changes, as seen at one moment. -/
structure ProducerView (T : Type) where
  write : UInt64
  writeSlot : UInt64
  /-- Number of fills begun. -/
  fills : ℕ
  /-- Contents published, in order. -/
  pushed : List T

/-- What the caller of `pushWith` knows: its fill, the object in the next slot, and how the call
ended. -/
structure PushReturn (T : Type) where
  fill : Prog T Bool
  object : T
  outcome : PushOutcome

abbrev PushRecord (T : Type) := CallRecord (PushReturn T) (ProducerView T)

/-- What the consumer gets: from `front` the slot of an object, with the object that it finds there,
and from `pop` whether there was one. -/
inductive ReadReturn (T : Type) where
  | front (found : Option (UInt64 × T))
  | pop (popped : Bool)

/-- A finished `front` or `pop`, with the elements popped before and after it. -/
abbrev ReadRecord (T : Type) := CallRecord (ReadReturn T) (List T)

/-- History of the queue. -/
structure SpscHistory (T : Type) where
  pushed : List T := []
  popped : List T := []
  fills : ℕ := 0
  /-- The slot being filled. -/
  filling : Option UInt64 := none
  /-- The slot that `front` returned last and what it held then, until that element is popped. -/
  held : Option (UInt64 × T) := none
  pushes : List (PushRecord T) := []
  reads : List (ReadRecord T) := []

structure SpscState (T : Type) where
  queue : SpscQueue T
  history : SpscHistory T := {}

/-- The number of elements in the queue. -/
def SpscState.size (s : SpscState T) : ℕ := s.history.pushed.length - s.history.popped.length

def SpscState.producerView (s : SpscState T) : ProducerView T :=
  ⟨s.queue.write, s.queue.writeSlot, s.history.fills, s.history.pushed⟩

namespace SpscState

variable (s : SpscState T)

/-- A fill begins. -/
def beginFill : SpscState T :=
  { s with history := { s.history with
    fills := s.history.fills + 1
    filling := some s.queue.writeSlot } }

/-- A `pushWith` has returned or thrown. -/
def endPush (r : PushRecord T) : SpscState T :=
  { s with history := { s.history with
    filling := none
    pushes := r :: s.history.pushes } }

/-- `_write.store(write + 1)`, which publishes the object just filled. -/
def publish (write : UInt64) (content : T) : SpscState T where
  queue := { s.queue with write := write + 1 }
  history := { s.history with
    pushed := s.history.pushed ++ [content]
    filling := none }

/-- `_read.store(read + 1)`, which hands the oldest object back. -/
def release (read : UInt64) (content : T) : SpscState T where
  queue := { s.queue with read := read + 1 }
  history := { s.history with
    popped := s.history.popped ++ [content]
    held := none }

/-- A `front` or `pop` has returned. -/
def endRead (r : ReadRecord T) : SpscState T :=
  { s with history := { s.history with
    held := match r.returned with
      | .front found => found
      | .pop _ => s.history.held
    reads := r :: s.history.reads } }

end SpscState

/-! ## Operations -/

namespace SpscQueue

/-- `_capacity` objects, constructed by the caller of the constructor. -/
def make (capacity : SpscCapacity) (data : UInt64 → T) : SpscQueue T :=
  { capacity := capacity.capacity, data }

def isFull (capacity write read : UInt64) : Bool := write - read == capacity

def isEmpty (write read : UInt64) : Bool := write == read

def nextSlot (capacity slot : UInt64) : UInt64 := if slot + 1 == capacity then 0 else slot + 1

/-- `_data[slot] = x`. -/
def setSlot (slot : UInt64) (x : T) (q : SpscQueue T) : SpscQueue T :=
  { q with data := Function.update q.data slot x }

/-- `fill(_data[slot])`. -/
def fillSlot (slot : UInt64) : Prog T α → Prog (SpscState T) α
  | .pure a => .pure a
  | .access f k =>
    .access (fun s => { s with queue := s.queue.setSlot slot (f (s.queue.data slot)) })
      fun s => fillSlot slot (k (s.queue.data slot))

def pushWith (fill : Prog T Bool) : Prog (SpscState T) PushOutcome := do
  let write ← .read (·.queue.write)
  let (read, capacity) ← .read fun s => (s.queue.read, s.queue.capacity)
  if isFull capacity write read then
    return .full
  else
    let slot ← .atomically fun s => (s.queue.writeSlot, s.beginFill)
    let returned ← fillSlot slot fill
    if !returned then
      return .threw
    else
      let content ← .atomically fun s =>
        (s.queue.data slot, { s with
          queue.writeSlot := nextSlot s.queue.capacity s.queue.writeSlot })
      .modify (·.publish write content)
      return .pushed

/-- The loads with which `front` and `pop` begin: `_read`, then `_write`. -/
def loadCounters : Prog (SpscState T) (UInt64 × UInt64) := do
  let read ← .read (·.queue.read)
  let write ← .read (·.queue.write)
  return (read, write)

/-- The slot of the oldest element. -/
def front : Prog (SpscState T) (Option UInt64) := do
  let (read, write) ← loadCounters
  if isEmpty write read then
    return none
  else
    .read fun s => some s.queue.readSlot

def pop : Prog (SpscState T) Bool := do
  let (read, write) ← loadCounters
  if isEmpty write read then
    return false
  else
    let content ← .atomically fun s =>
      (s.queue.data s.queue.readSlot, { s with
        queue.readSlot := nextSlot s.queue.capacity s.queue.readSlot })
    .modify (·.release read content)
    return true

end SpscQueue

/-! ## Threads -/

inductive SpscThread where
  | producer
  | consumer
  deriving DecidableEq, Repr

inductive SpscCall (T : Type) where
  | pushWith (fill : Prog T Bool)
  | front
  | pop

namespace SpscCall

def thread : SpscCall T → SpscThread
  | .pushWith _ => .producer
  | .front => .consumer
  | .pop => .consumer

/-- The call and what its caller sees of it. -/
def program : SpscCall T → Prog (SpscState T) Unit
  | .pushWith fill =>
    recorded SpscState.producerView (·.history.popped.length) SpscState.endPush do
      let object ← .read fun s => s.queue.data s.queue.writeSlot
      let outcome ← SpscQueue.pushWith fill
      return ⟨fill, object, outcome⟩
  | .front =>
    recorded (·.history.popped) (·.history.pushed.length) SpscState.endRead do
      let slot ← SpscQueue.front
      .read fun s => .front (slot.map fun slot => (slot, s.queue.data slot))
  | .pop =>
    recorded (·.history.popped) (·.history.pushed.length) SpscState.endRead do
      let popped ← SpscQueue.pop
      return .pop popped

end SpscCall

/-- One producer and one consumer. -/
def spscMachine (T : Type) : Machine SpscThread (SpscCall T) (SpscState T) :=
  ⟨SpscCall.thread, SpscCall.program⟩

/-- The pool reached from a constructed queue: every interleaving of accesses. -/
def spscRun (capacity : SpscCapacity) (data : UInt64 → T)
    (moves : List (Move SpscThread (SpscCall T))) : Pool SpscThread (SpscState T) :=
  Pool.run (spscMachine T) moves (Pool.idle ⟨.make capacity data, {}⟩)

end Anasa
