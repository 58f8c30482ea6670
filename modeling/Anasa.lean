import Anasa.Concurrency.Program
import Anasa.Concurrency.Pool
import Anasa.Concurrency.CallRecord
import Anasa.Concurrency.Layer
import Anasa.Concurrency.BoundedFifo
import Anasa.Concurrency.PriorityQueue
import Anasa.Queues.SpscLayout
import Anasa.Queues.SpscInvariant
import Anasa.Queues.SpscProducer
import Anasa.Queues.SpscConsumer
import Anasa.Queues.SpscRefinement
import Anasa.Model.SpscQueue
import Anasa.Model.Timeline
import Anasa.Model.Settings
import Anasa.Model.State
import Anasa.Model.Playback
import Anasa.Model.RenderJobs
import Anasa.Model.SchedulingPolicy
import Anasa.Model.Renderer
import Anasa.Model.Executor
import Anasa.Model.AudioBlockProcessor
import Anasa.Model.TimelineAudioPublisher
import Anasa.Model.Scheduler
import Anasa.Model.Engine
import Anasa.Model.Session
import Anasa.Rendering.Operations
import Anasa.Rendering.Accounting
import Anasa.Rendering.Registration
import Anasa.Rendering.Invariant
import Anasa.Rendering.Frames
import Anasa.Rendering.Steps
import Anasa.Rendering.Contract
import Anasa.Rendering.WorkerSafety
import Anasa.Rendering.SchedulerSafety
import Anasa.Rendering.LifecycleSafety
import Anasa.Rendering.Discipline
import Anasa.Rendering.SessionDiscipline
import Anasa.Rendering.Guarantees
import Anasa.Rendering.Invalidation
import Anasa.Concurrency.Ownership
import Anasa.Scheduling.Policies
import Anasa.Scheduling.Plan
import Anasa.Scheduling.Classification
import Anasa.Scheduling.Queue
import Anasa.Playback.Frames
import Anasa.Playback.Cursor
import Anasa.Playback.CursorSteps
import Anasa.Playback.CursorContract
import Anasa.Playback.Protocol
import Anasa.Playback.Edits
import Anasa.Playback.ReadyOrder
import Anasa.Playback.Runs
import Anasa.Playback.ReadyQueue
import Anasa.Playback.Publishing
import Anasa.Playback.Callbacks
import Anasa.Playback.AtomicRuns
import Anasa.Playback.BackgroundGate
import Anasa.Playback.Guarantees
import Anasa.Playback.Prebuffer
import Anasa.Playback.PrebufferRuns
import Anasa.Playback.StartWindow
import Anasa.Scheduling.PlanSteps
import Anasa.Scheduling.PlanScheduling
import Anasa.Scheduling.PlanDispatch
import Anasa.Scheduling.PlanLifecycle
import Anasa.Scheduling.Guarantees
import Anasa.Scheduling.DispatchOrder
import Anasa.Concurrency.ShortestPrefix
import Anasa.Scheduling.Eviction
import Anasa.Scheduling.EvictionGuarantees
import Anasa.Scheduling.Control
import Anasa.Scheduling.ControlSteps
import Anasa.Scheduling.ControlLifecycle
import Anasa.Scheduling.SessionBoundary
import Anasa.Concurrency.DrainOrder
import Anasa.Scheduling.Admission
import Anasa.Scheduling.AdmissionSteps
import Anasa.Scheduling.AdmissionRuns
import Anasa.Scheduling.PriorityDrain
import Anasa.Scheduling.Cancellation
import Anasa.Scheduling.FifoOrder
import Anasa.Playback.AnyQueue
import Anasa.Playback.MaximalRun
import Anasa.Concurrency.Environment
import Anasa.Rendering.TileChecks
import Anasa.Rendering.TileTeams
import Anasa.Concurrency.Isolation
import Anasa.Scheduling.Coverage
import Anasa.Scheduling.ScheduleAlone
import Anasa.Scheduling.CoverageSteps
import Anasa.Scheduling.CoverageLoops
import Anasa.Scheduling.CoverageCalls
import Anasa.Scheduling.CoverageKept
import Anasa.Scheduling.ScanMoves
import Anasa.Scheduling.CoverageGuarantees
import Anasa.Arithmetic.CheckedInt
import Anasa.Model.CheckedFrames
import Anasa.Concurrency.CheckedProgram
import Anasa.Model.CheckedEngine
import Anasa.Arithmetic.FrameBounds
import Anasa.Arithmetic.FrameInvariant
import Anasa.Arithmetic.PlaybackChecks
import Anasa.Arithmetic.SchedulerChecks
import Anasa.Arithmetic.WorkerChecks
import Anasa.Arithmetic.Guarantees
import Anasa.Concurrency.EventSystem
import Anasa.Concurrency.CursorRing
import Anasa.Concurrency.CursorRingSound
import Anasa.Model.SpscQueueOld
import Anasa.Queues.SpscOld
import Anasa.Model.WorkerPool
import Anasa.Execution.PoolSteps
import Anasa.Execution.PoolInvariant
import Anasa.Execution.PoolTasks
import Anasa.Execution.PoolProgress
import Anasa.Scheduling.WorkKept
import Anasa.Scheduling.WorkGuarantees
import Anasa.Model.AudioSimulator
import Anasa.Device.ClockInvariant
import Anasa.Device.ClockGuarantees
import Anasa.Model.EngineThreads
import Anasa.Lifecycle.LiveSteps
import Anasa.Lifecycle.LiveInvariant
import Anasa.Lifecycle.LiveGuarantees
import Anasa.Lifecycle.LiveProgress
import Anasa.Model.PlanarBuffer
import Anasa.Rendering.PlanarStorage
import Anasa.Playback.Supply
import Anasa.Playback.PlayThrough
import Anasa.Concurrency.Observer
import Anasa.Playback.Snapshots
