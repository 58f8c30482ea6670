import Anasa.Model.Timeline

/-!
# Settings and what the constructors accept

The settings structures with their defaults, and the argument checks of the constructors that an
engine runs, each a list of conditions with the message thrown when the condition fails. C++
initialises members in declaration order, so the first failing check decides the message.

`AcceptedConfig` is a wiring that every constructor accepted; the rest of the development is
about accepted configurations only.
-/

namespace Anasa

/-- `SchedulingPolicyType`. -/
inductive SchedulingPolicyType where
  | fifo
  | priority
  deriving DecidableEq, Repr

structure SchedulerSettings where
  policyType : SchedulingPolicyType := .priority
  commandQueueSlots : Int := 32
  prebufferBlocks : Int := 16
  lowWaterBlocks : Int := 16
  highWaterBlocks : Int := 48
  /-- Minimum urgent window; it expands to cover the prebuffer demand. -/
  urgentChunks : Int := 8
  maxPendingTiles : Int := 256
  urgentReservedTiles : Int := 64
  rebufferOnEdit : Bool := true
  deriving DecidableEq, Repr

structure AudioSettings where
  sampleRate : Int := 48000
  audioBlockFrames : Int := 128
  channelCount : Int := 2
  deriving DecidableEq, Repr

structure RenderSettings where
  contextFrames : Int := 128
  workIterations : Int := 300
  deriving DecidableEq, Repr

structure ExecutorSettings where
  workerCount : Int := 4
  renderTasksQueueCapacity : Int := 8
  deriving DecidableEq, Repr

structure EngineSettings where
  audio : AudioSettings := {}
  render : RenderSettings := {}
  executor : ExecutorSettings := {}
  scheduler : SchedulerSettings := {}
  timelineInSeconds : Int := 12
  deriving DecidableEq, Repr

/-- What the components of an engine are constructed from: the settings, the timeline length,
the size of the version table and the capacity of the ready-audio queue. -/
structure Config where
  audio : AudioSettings := {}
  render : RenderSettings := {}
  executor : ExecutorSettings := {}
  scheduler : SchedulerSettings := {}
  totalFrames : Int
  chunkCount : Int := 1 + (totalFrames - 1) / chunkFrames
  readyQueueCapacity : ℕ := readyAudioQueueSlots
  deriving DecidableEq, Repr

/-- The range of a C++ `int`. -/
def IsInt32 (x : Int) : Prop := -2 ^ 31 ≤ x ∧ x < 2 ^ 31

instance : DecidablePred IsInt32 := fun _ => inferInstanceAs (Decidable (_ ∧ _))

/-- `static_cast<int>` of a `std::size_t`. -/
def intOfSize (n : ℕ) : Int := Int.bmod n (2 ^ 32)

theorem intOfSize_le (n : ℕ) : intOfSize n ≤ n := by
  unfold intOfSize
  rw [Int.bmod_def]
  split <;> omega

/-! ## Checks -/

/-- A condition and the message of the exception thrown when it fails. -/
abbrev Check := Bool × String

/-- Run the checks in order; the first that fails throws. -/
def runChecks : List Check → Except String Unit
  | [] => .ok ()
  | (ok, message) :: rest => if ok then runChecks rest else .error message

theorem runChecks_eq_ok {checks : List Check} :
    runChecks checks = .ok () ↔ ∀ c ∈ checks, c.1 = true := by
  induction checks with
  | nil => simp [runChecks]
  | cons c rest ih =>
    obtain ⟨ok, message⟩ := c
    cases ok <;> simp [runChecks, ih]

namespace Config

variable (c : Config)

def versionTableChecks : List Check :=
  [(0 < c.chunkCount, "Count must be positive")]

def readyQueueChecks : List Check :=
  [(0 < c.readyQueueCapacity, "SpscQueue capacity must be greater than zero")]

def renderKernelChecks : List Check :=
  [(0 < c.audio.sampleRate, "Sample rate should always be positive"),
   (0 ≤ c.render.workIterations, "Work iterations can not be negative")]

def executorChecks : List Check :=
  [(0 < c.executor.workerCount, "workerCount must be greater than zero"),
   (0 < c.executor.renderTasksQueueCapacity, "queuedTaskCapacity must be greater than zero")]

def playbackProtocolChecks : List Check :=
  [(0 < c.totalFrames, "totalFrames must be greater than zero")]

def playbackControllerChecks : List Check :=
  [(0 ≤ c.scheduler.prebufferBlocks, "prebufferBlocks must not be negative")]

def backgroundRenderGateChecks : List Check :=
  [(0 ≤ c.scheduler.lowWaterBlocks, "lowWaterBlocks must not be negative"),
   (0 ≤ c.scheduler.highWaterBlocks, "highWaterBlocks must not be negative"),
   (c.scheduler.lowWaterBlocks ≤ c.scheduler.highWaterBlocks,
    "highWaterBlocks must not be smaller than lowWaterBlocks")]

def timelineAudioPublisherChecks : List Check :=
  [(0 < c.audio.channelCount, "channelCount must be greater than zero"),
   (0 < c.audio.audioBlockFrames, "audioBlockFrames must be greater than zero"),
   (c.audio.audioBlockFrames ≤ maxAudioBlockFrames,
    "audioBlockFrames exceeds MAX_AUDIO_BLOCK_FRAMES"),
   (chunkFrames % c.audio.audioBlockFrames = 0, "audioBlockFrames must divide CHUNK_FRAMES"),
   (0 < c.totalFrames, "totalFrames must be greater than zero"),
   (c.totalFrames % c.audio.audioBlockFrames = 0,
    "totalFrames must be divisible by audioBlockFrames - current engine does not support a "
      ++ "partial final audio block")]

def renderCacheChecks : List Check :=
  [(0 < c.audio.channelCount, "channelCount must be greater than zero"),
   (0 < c.totalFrames, "totalFrames must be greater than zero"),
   (c.chunkCount = 1 + (c.totalFrames - 1) / chunkFrames,
    "VersionTable size does not match timeline chunk count")]

def activeRenderJobsChecks : List Check :=
  [(0 < c.audio.channelCount, "channelCount must be greater than zero"),
   (0 < c.chunkCount, "chunkCount must be greater than zero")]

/-- The queues among the members of `Scheduler`. -/
def schedulerStorageChecks : List Check :=
  [(0 < c.scheduler.commandQueueSlots, "commandQueueSlots must be greater than zero"),
   (0 < c.scheduler.maxPendingTiles, "capacity must be greater than zero")]

/-- The body of the constructor of `Scheduler`. -/
def schedulerBodyChecks : List Check :=
  [(0 < c.audio.sampleRate, "sampleRate must be greater than zero"),
   (0 ≤ c.render.contextFrames, "contextFrames must not be negative"),
   (0 < c.scheduler.urgentChunks, "urgentChunks must be greater than zero"),
   (0 < c.scheduler.maxPendingTiles, "maxPendingTiles must be greater than zero"),
   (tilesPerChunk ≤ c.scheduler.maxPendingTiles,
    "maxPendingTiles must hold at least one complete chunk"),
   (0 ≤ c.scheduler.urgentReservedTiles ∧
      c.scheduler.urgentReservedTiles ≤ c.scheduler.maxPendingTiles,
    "urgentReservedTiles must be between zero and maxPendingTiles"),
   (c.scheduler.prebufferBlocks ≤ intOfSize c.readyQueueCapacity,
    "prebufferBlocks exceeds ready-audio queue capacity"),
   (c.scheduler.highWaterBlocks ≤ intOfSize c.readyQueueCapacity,
    "highWaterBlocks exceeds ready-audio queue capacity"),
   (tilesPerChunk ≤ c.scheduler.urgentReservedTiles,
    "urgentReservedTiles must hold one complete chunk")]

/-- The members of `Scheduler` in declaration order, then the body of its constructor. -/
def schedulerChecks : List Check :=
  c.playbackProtocolChecks ++ c.playbackControllerChecks ++ c.backgroundRenderGateChecks ++
  c.timelineAudioPublisherChecks ++ c.schedulerStorageChecks ++ c.renderCacheChecks ++
  c.activeRenderJobsChecks ++ c.schedulerBodyChecks

def audioBlockProcessorChecks : List Check :=
  [(0 < c.audio.audioBlockFrames ∧ c.audio.audioBlockFrames ≤ maxAudioBlockFrames,
    "Invalid internal audio block size"),
   (0 < c.totalFrames ∧ c.totalFrames % c.audio.audioBlockFrames = 0,
    "Timeline must contain a positive number of complete audio blocks")]

def audioSimulatorChecks : List Check :=
  [(0 < c.audio.sampleRate, "sampleRate must be greater than zero"),
   (0 < c.audio.audioBlockFrames ∧ c.audio.audioBlockFrames ≤ maxAudioBlockFrames,
    "Invalid simulated callback size"),
   (0 < c.audio.channelCount, "channelCount must be greater than zero")]

/-- The components in the order in which `Engine` declares them. -/
def checks : List Check :=
  c.versionTableChecks ++ c.readyQueueChecks ++ c.renderKernelChecks ++ c.executorChecks ++
  c.schedulerChecks ++ c.audioBlockProcessorChecks ++ c.audioSimulatorChecks

/-- Construct every component. -/
def construct : Except String Unit := runChecks c.checks

/-- The `int` members of a configuration. -/
def ints : List Int :=
  [c.audio.sampleRate, c.audio.audioBlockFrames, c.audio.channelCount, c.render.contextFrames,
   c.render.workIterations, c.executor.workerCount, c.executor.renderTasksQueueCapacity,
   c.scheduler.commandQueueSlots, c.scheduler.prebufferBlocks, c.scheduler.lowWaterBlocks,
   c.scheduler.highWaterBlocks, c.scheduler.urgentChunks, c.scheduler.maxPendingTiles,
   c.scheduler.urgentReservedTiles, c.totalFrames, c.chunkCount]

end Config

/-- A configuration of `int` settings that every constructor accepted. -/
structure AcceptedConfig extends Config where
  int32 : ∀ x ∈ toConfig.ints, IsInt32 x
  accepted : toConfig.construct = .ok ()

instance : Coe AcceptedConfig Config := ⟨AcceptedConfig.toConfig⟩

/-! ## Engine construction -/

/-- `Engine::calculateTotalFrames`: the checks that come before any component. -/
def EngineSettings.checks (s : EngineSettings) : List Check :=
  [(0 < s.timelineInSeconds, "timelineInSeconds must be greater than zero"),
   (0 < s.audio.sampleRate, "sampleRate must be greater than zero"),
   (0 < s.audio.channelCount, "channelCount must be greater than zero"),
   (0 < s.audio.audioBlockFrames ∧ s.audio.audioBlockFrames ≤ maxAudioBlockFrames,
    "Invalid internal audio block size"),
   (s.timelineInSeconds ≤ (2 ^ 31 - 1) / s.audio.sampleRate,
    "Timeline frame count exceeds the supported range")]

/-- The wiring of the components of an engine. -/
def EngineSettings.config (s : EngineSettings) : Config where
  audio := s.audio
  render := s.render
  executor := s.executor
  scheduler := s.scheduler
  totalFrames := s.timelineInSeconds * s.audio.sampleRate

/-- `Engine::Engine`. -/
def EngineSettings.construct (s : EngineSettings) : Except String Config := do
  runChecks s.checks
  s.config.construct
  return s.config

/-! ## What acceptance gives -/

/-- The facts about a configuration that the proofs use. -/
structure Config.Valid (c : Config) : Prop where
  totalFrames_pos : 0 < c.totalFrames
  blockFrames_pos : 0 < c.audio.audioBlockFrames
  block_dvd_chunk : c.audio.audioBlockFrames ∣ chunkFrames
  block_dvd_total : c.audio.audioBlockFrames ∣ c.totalFrames
  channelCount_pos : 0 < c.audio.channelCount
  chunkCount_eq : c.chunkCount = 1 + (c.totalFrames - 1) / chunkFrames
  contextFrames_nonneg : 0 ≤ c.render.contextFrames
  prebuffer_nonneg : 0 ≤ c.scheduler.prebufferBlocks
  prebuffer_le : c.scheduler.prebufferBlocks ≤ c.readyQueueCapacity
  lowWater_nonneg : 0 ≤ c.scheduler.lowWaterBlocks
  lowWater_le : c.scheduler.lowWaterBlocks ≤ c.scheduler.highWaterBlocks
  highWater_le : c.scheduler.highWaterBlocks ≤ c.readyQueueCapacity
  urgentChunks_pos : 0 < c.scheduler.urgentChunks
  maxPendingTiles_ge : tilesPerChunk ≤ c.scheduler.maxPendingTiles
  reserved_ge : tilesPerChunk ≤ c.scheduler.urgentReservedTiles
  reserved_le : c.scheduler.urgentReservedTiles ≤ c.scheduler.maxPendingTiles
  capacity_pos : 0 < c.readyQueueCapacity
  workerCount_pos : 0 < c.executor.workerCount

theorem AcceptedConfig.valid (cfg : AcceptedConfig) : cfg.Valid := by
  have h := runChecks_eq_ok.mp cfg.accepted
  simp only [Config.checks, Config.versionTableChecks, Config.readyQueueChecks,
    Config.renderKernelChecks, Config.executorChecks, Config.schedulerChecks,
    Config.playbackProtocolChecks, Config.playbackControllerChecks,
    Config.backgroundRenderGateChecks, Config.timelineAudioPublisherChecks,
    Config.schedulerStorageChecks, Config.schedulerBodyChecks, Config.renderCacheChecks,
    Config.activeRenderJobsChecks, Config.audioBlockProcessorChecks,
    Config.audioSimulatorChecks, List.mem_append, List.mem_cons, List.not_mem_nil, or_false,
    or_imp, forall_and, forall_eq, decide_eq_true_eq] at h
  have hcap := intOfSize_le cfg.readyQueueCapacity
  obtain ⟨⟨⟨⟨⟨⟨-, hqueue⟩, -⟩, hworkers, -⟩, ⟨⟨⟨⟨⟨⟨htotal, hprebuffer⟩, hlow, -, hmarks⟩,
    hchannels, hblock, -, hchunk, -, hremainder⟩, -⟩, -, -, hcount⟩, -⟩, -, hcontext, hurgent, -,
    hmax, ⟨-, hreserved⟩, hprebuffer', hhigh, hreserve⟩, -⟩, -⟩ := h
  exact {
    totalFrames_pos := htotal
    blockFrames_pos := hblock
    block_dvd_chunk := Int.dvd_of_emod_eq_zero hchunk
    block_dvd_total := Int.dvd_of_emod_eq_zero hremainder
    channelCount_pos := hchannels
    chunkCount_eq := hcount
    contextFrames_nonneg := hcontext
    prebuffer_nonneg := hprebuffer
    prebuffer_le := hprebuffer'.trans hcap
    lowWater_nonneg := hlow
    lowWater_le := hmarks
    highWater_le := hhigh.trans hcap
    urgentChunks_pos := hurgent
    maxPendingTiles_ge := hmax
    reserved_ge := hreserve
    reserved_le := hreserved
    capacity_pos := hqueue
    workerCount_pos := hworkers }

theorem AcceptedConfig.sampleRate_pos (cfg : AcceptedConfig) : 0 < cfg.audio.sampleRate := by
  have h := runChecks_eq_ok.mp cfg.accepted
    (decide (0 < cfg.audio.sampleRate), "Sample rate should always be positive")
    (by simp [Config.checks, Config.renderKernelChecks])
  exact of_decide_eq_true h

/-- An engine that constructs wires an accepted configuration. -/
theorem EngineSettings.construct_eq_ok {s : EngineSettings} {c : Config}
    (h : s.construct = .ok c) : c = s.config ∧ c.construct = .ok () := by
  unfold construct at h
  rcases h₁ : runChecks s.checks with e | u
  · rw [h₁] at h
    cases h
  · rcases h₂ : s.config.construct with e | u'
    · rw [h₁, h₂] at h
      cases h
    · rw [h₁, h₂] at h
      cases h
      exact ⟨rfl, h₂⟩

/-- It passed the checks that come before any component. -/
theorem EngineSettings.checks_of_construct {s : EngineSettings} {c : Config}
    (h : s.construct = .ok c) : runChecks s.checks = .ok () := by
  unfold construct at h
  rcases hchecks : runChecks s.checks with e | u
  · rw [hchecks] at h
    cases h
  · rfl

end Anasa
