import Anasa.Concurrency.PriorityQueue
import Anasa.Model.State

/-!
# Scheduling policies

The two orders of the pending tiles and the queue `_pendingTiles` under the policy of the
settings.
-/

namespace Anasa

open Concurrency

def FifoSchedulingPolicy.hasLowerPrecedence (a b : PendingRenderTile) : Bool :=
  a.sequence > b.sequence

/-- Urgent before visible before background; among urgent tiles the earlier deadline first, then
the nearer chunk, then the older submission. -/
def PrioritySchedulingPolicy.hasLowerPrecedence (a b : PendingRenderTile) : Bool :=
  if a.classification.priority ≠ b.classification.priority then
    a.classification.priority.toInt > b.classification.priority.toInt
  else if a.classification.priority = .urgent ∧
      a.classification.deadlineFrame ≠ b.classification.deadlineFrame then
    a.classification.deadlineFrame > b.classification.deadlineFrame
  else if a.classification.distanceInFrames ≠ b.classification.distanceInFrames then
    a.classification.distanceInFrames > b.classification.distanceInFrames
  else a.sequence > b.sequence

/-- `createSchedulingPolicy`. -/
def createSchedulingPolicy : SchedulingPolicyType → PendingRenderTile → PendingRenderTile → Bool
  | .fifo => FifoSchedulingPolicy.hasLowerPrecedence
  | .priority => PrioritySchedulingPolicy.hasLowerPrecedence

/-- `_pendingTiles.push`. -/
def pushPending (cfg : Config) (tile : PendingRenderTile) (q : List PendingRenderTile) :
    List PendingRenderTile :=
  PriorityQueue.push (createSchedulingPolicy cfg.scheduler.policyType) tile q

/-- Push several tiles, one after the other. -/
def pushAllPending (cfg : Config) (tiles q : List PendingRenderTile) : List PendingRenderTile :=
  PriorityQueue.pushAll (createSchedulingPolicy cfg.scheduler.policyType) tiles q

end Anasa
