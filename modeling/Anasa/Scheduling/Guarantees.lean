import Anasa.Scheduling.PlanLifecycle

/-!
# What scheduling and dispatch guarantee

1. *Fresh labels*: whenever a pass of `scheduleRenderJobs` has returned, every pending tile has the
   class and the deadline of the playhead of the pass.
2. *The gate*: while a low lead has been seen and no recovery since, no background tile is
   submitted; and dispatch leaves only what the gate holds back, unless the executor takes no more.
-/

namespace Anasa

open Concurrency PriorityQueue Scheduler

variable {S : Type}

/-! ## Fresh labels -/

/-- The tile has the class and the deadline that its chunk has at the frame. -/
def ClassifiedAt (cfg : Config) (s : EngineState S) (frame : Int) (tile : PendingRenderTile) :
    Prop :=
  ∃ classification,
    classifyChunk cfg s.sched (s.render.jobs.job tile.job).chunk frame = .ok classification ∧
      tile.classification.priority = classification.priority ∧
      tile.classification.deadlineFrame = classification.deadlineFrame

/-- Labels are fresh after each pass of `scheduleRenderJobs`, and a refresh at any time changes
nothing but labels and order. -/
structure LabelsFresh (cfg : Config) (p : Pool ThreadId (EngineState S)) : Prop where
  scheduled : cfg.scheduler.policyType = .priority → p.thread .scheduler = none →
    p.state.loop.phase = .dispatchPendingTiles → ∀ tile ∈ p.state.render.pendingTiles,
      ClassifiedAt cfg p.state p.state.schedulingHistory.playheadFrame tile
  refreshed : ∀ frame, (((refreshPendingClassifications cfg frame).run
    p.state).2.render.pendingTiles.map fun t => (t.job, t.tileIndex, t.sequence)).Perm
      (p.state.render.pendingTiles.map fun t => (t.job, t.tileIndex, t.sequence))

/-- **Fresh labels.** In every run under the priority policy, whenever a pass of
`scheduleRenderJobs` has returned, every pending tile has the class and the deadline of its chunk
at the playhead of the pass; and refreshing loses, duplicates and renames no tile. -/
theorem sessionRun_labelsFresh [Zero S] (cfg : AcceptedConfig) (kernel : RenderKernel S)
    (moves : List (SessionMove S)) :
    LabelsFresh cfg.toConfig (sessionRun cfg.toConfig kernel moves) where
  scheduled hpolicy hidle hphase tile htile := by
    have hfresh := (sessionRun_planIdle hidle).scheduled hpolicy hphase
    obtain ⟨classification, -, -, hclassify, hpriority, hdeadline, -⟩ :=
      (hfresh.labelled tile (List.mem_append_left _ htile)).classify cfg.valid hfresh.nonneg
        hfresh.le_total
    exact ⟨classification, hclassify, hpriority.symm, hdeadline.symm⟩
  refreshed frame := refresh_keys _ frame

/-! ## The gate -/

/-- Since it saw a lead below the low mark, the gate has neither been reset nor seen one that
reaches the high mark. -/
def LowLeadSeen (cfg : Config) (observations : List GateObservation) : Prop :=
  ∃ later lead earlier, observations = later ++ .lead lead :: earlier ∧
    lead < cfg.scheduler.lowWaterBlocks ∧
    ∀ o ∈ later, ∃ blocks, o = .lead blocks ∧ blocks < cfg.scheduler.highWaterBlocks

theorem heldBack_iff {cfg : Config} {observations : List GateObservation} :
    heldBack cfg observations = true ↔ LowLeadSeen cfg observations := by
  induction observations with
  | nil => simp [heldBack, LowLeadSeen]
  | cons o earlier ih =>
    constructor
    · intro h
      cases o with
      | reset => cases h
      | lead blocks =>
        simp only [heldBack, Bool.or_eq_true, Bool.and_eq_true, decide_eq_true_eq] at h
        rcases h with hlow | ⟨hhigh, hheld⟩
        · exact ⟨[], blocks, earlier, rfl, hlow, fun o ho => absurd ho List.not_mem_nil⟩
        · obtain ⟨later, lead, rest, rfl, hlead, hlater⟩ := ih.mp hheld
          refine ⟨.lead blocks :: later, lead, rest, rfl, hlead, fun o ho => ?_⟩
          rcases List.mem_cons.mp ho with rfl | ho
          · exact ⟨blocks, rfl, hhigh⟩
          · exact hlater o ho
    · rintro ⟨later, lead, rest, heq, hlead, hlater⟩
      cases later with
      | nil =>
        obtain ⟨rfl, rfl⟩ := List.cons.inj heq
        simp [heldBack, hlead]
      | cons o' later =>
        obtain ⟨rfl, rfl⟩ := List.cons.inj heq
        obtain ⟨blocks, rfl, hhigh⟩ := hlater _ List.mem_cons_self
        have hheld : heldBack cfg (later ++ .lead lead :: rest) = true :=
          ih.mpr ⟨later, lead, rest, rfl, hlead, fun o ho =>
            hlater o (List.mem_cons_of_mem _ ho)⟩
        simp [heldBack, hheld, hhigh]

/-- Dispatch ended because the executor refused, or had a task for every worker. -/
def ExecutorTookNoMore (cfg : Config) : DispatchEnd → Prop
  | .drained => False
  | .executorFull queued => Executor.workerCount cfg ≤ queued
  | .heldBack => False
  | .refused => True

/-- The gate holds back background tiles while it should, and nothing else. -/
structure GateHolds (cfg : Config) (p : Pool ThreadId (EngineState S)) : Prop where
  /-- The tiles submitted, with what the gate had seen before. -/
  background : ∀ sub ∈ p.state.schedulingHistory.submissions, LowLeadSeen cfg sub.observations →
    sub.tile.classification.priority ≠ .background
  /-- What a pass of `dispatchPendingTiles` left pending. -/
  others : p.thread .scheduler = none → p.state.loop.phase = .condition →
    (∃ t ∈ p.state.render.pendingTiles, cfg.scheduler.policyType = .fifo ∨
      t.classification.priority ≠ .background) →
    ExecutorTookNoMore cfg p.state.schedulingHistory.dispatchEnd

/-- **The gate holds back background work and nothing else.** In every run, no background tile is
submitted once a low lead was seen and until a high lead is, or playback is no longer requested, or
the scheduler restarts; and `dispatchPendingTiles` returns with an urgent or visible tile pending,
or any tile under the Fifo policy, only if the executor had a task for every worker or refused. -/
theorem sessionRun_gateHolds [Zero S] (cfg : AcceptedConfig) (kernel : RenderKernel S)
    (moves : List (SessionMove S)) :
    GateHolds cfg.toConfig (sessionRun cfg.toConfig kernel moves) where
  background sub hsub hseen :=
    ((sessionRun_planInv cfg kernel moves).submissions sub hsub).admitted (heldBack_iff.mpr hseen)
  others hidle hphase hleft := by
    obtain ⟨t, ht, hclass⟩ := hleft
    rcases (sessionRun_planIdle hidle).dispatched hphase t ht hclass with h | ⟨queued, hfull, h⟩
    · have h' : (sessionRun cfg.toConfig kernel moves).state.schedulingHistory.dispatchEnd =
        .refused := h
      rw [h']
      trivial
    · have h' : (sessionRun cfg.toConfig kernel moves).state.schedulingHistory.dispatchEnd =
        .executorFull queued := h
      rw [h']
      exact hfull

/-- An engine with two chunks of two blocks each, whose gate closes below one block. -/
def gatedConfig : AcceptedConfig where
  totalFrames := 4096
  audio := { audioBlockFrames := 1024, channelCount := 1 }
  executor := { workerCount := 32, renderTasksQueueCapacity := 32 }
  scheduler :=
    { prebufferBlocks := 0, lowWaterBlocks := 1, highWaterBlocks := 2, urgentChunks := 1 }
  int32 := by decide
  accepted := by decide

/-- After Play with an empty viewport, both chunks have been scheduled and dispatched. -/
def gatedMoves : List (SessionMove ℤ) :=
  [.whole .engineStart, .whole (.post { type := .setViewport }),
    .whole (.post { type := .play })] ++
    List.replicate 10 (.whole (.schedulerLoop fun _ => false))

/-- A low lead is seen; the tiles of the urgent chunk are submitted after that, and those of the
other one are held back. -/
theorem sessionRun_gateHolds_lowLead :
    GateHolds gatedConfig.toConfig
      (sessionRun gatedConfig.toConfig (fun _ _ _ => (0 : ℤ)) gatedMoves) ∧
    (sessionRun gatedConfig.toConfig (fun _ _ _ => (0 : ℤ))
      gatedMoves).state.schedulingHistory.submissions.map (fun sub =>
        (sub.tile.classification.priority, sub.observations)) =
      List.replicate 8 (.urgent, [.lead 0, .reset]) ∧
    (sessionRun gatedConfig.toConfig (fun _ _ _ => (0 : ℤ))
      gatedMoves).state.schedulingHistory.dispatchEnd = .heldBack ∧
    (sessionRun gatedConfig.toConfig (fun _ _ _ => (0 : ℤ))
      gatedMoves).state.render.pendingTiles.map (·.classification.priority) =
      List.replicate 8 .background :=
  ⟨sessionRun_gateHolds gatedConfig _ gatedMoves, by decide +kernel, by decide +kernel,
    by decide +kernel⟩

end Anasa
