import Mathlib.Algebra.Order.Group.Abs
import Anasa.Scheduling.PlanLifecycle

/-!
# The order of dispatch

A tile keeps the distance measured at the playhead it was last classified for, while the playhead
moves within its chunk. So dispatch follows the order of the current classifications but for the
distances: these may be stale between chunks on opposite sides of the playhead, and between two
jobs of one chunk.
-/

namespace Anasa

open Concurrency PriorityQueue Scheduler

variable {S : Type} {cfg : Config}

/-! ## Current classifications -/

namespace Submission

variable (sub : Submission)

/-- A tile with the classification of its chunk at the playhead of the pass. -/
def recomputed (cfg : Config) (t : PendingRenderTile) : PendingRenderTile :=
  match classifyChunk cfg sub.sched (sub.chunk t.job) sub.playheadFrame with
  | .error _ => t
  | .ok classification => { t with classification }

/-- The pending tile precedes the submitted one by the current classifications. -/
def Precedes (cfg : Config) (t : PendingRenderTile) : Prop :=
  PrioritySchedulingPolicy.hasLowerPrecedence (sub.recomputed cfg sub.tile)
    (sub.recomputed cfg t) = true

instance (cfg : Config) (t : PendingRenderTile) : Decidable (sub.Precedes cfg t) :=
  inferInstanceAs (Decidable (_ = true))

/-- The chunk of the tile lies ahead of the playhead. -/
def Ahead (t : PendingRenderTile) : Prop := sub.playheadFrame < firstFrameOfChunk (sub.chunk t.job)

/-- Only the distances can explain that the pending tile precedes the submitted one: the chunks
are on opposite sides of the playhead, and the distances differ by less than two chunks, or the
tiles belong to two jobs of one chunk. -/
structure StaleDistance (cfg : Config) (t : PendingRenderTile) : Prop where
  priority : (sub.recomputed cfg sub.tile).classification.priority =
    (sub.recomputed cfg t).classification.priority
  deadlineFrame : (sub.recomputed cfg sub.tile).classification.deadlineFrame =
    (sub.recomputed cfg t).classification.deadlineFrame
  cause : (¬(sub.Ahead sub.tile ↔ sub.Ahead t) ∧
      (sub.recomputed cfg sub.tile).classification.distanceInFrames <
        (sub.recomputed cfg t).classification.distanceInFrames + 2 * chunkFrames) ∨
    sub.chunk sub.tile.job = sub.chunk t.job ∧ sub.tile.job ≠ t.job

end Submission

/-! ## Stale distances -/

section

variable {frame playheadFrame : Int}

theorem SamePlayhead.near (hcfg : cfg.Valid) (h : SamePlayhead cfg frame playheadFrame)
    (hle : playheadFrame ≤ cfg.totalFrames) :
    frame < playheadFrame + chunkFrames ∧ playheadFrame < frame + chunkFrames := by
  rcases h.cases hcfg hle with ⟨-, -, hchunk⟩ | ⟨rfl, hplayhead⟩
  · simp only [frameToChunk, chunkFrames] at hchunk ⊢
    omega
  · simp only [chunkFrames]
    omega

/-- A chunk is ahead of both frames or of neither. -/
theorem SamePlayhead.ahead_iff (hcfg : cfg.Valid) (h : SamePlayhead cfg frame playheadFrame)
    (hle : playheadFrame ≤ cfg.totalFrames) (chunk : Int) :
    frame < firstFrameOfChunk chunk ↔ playheadFrame < firstFrameOfChunk chunk := by
  rcases h.cases hcfg hle with ⟨-, -, hchunk⟩ | ⟨rfl, hplayhead⟩
  · simp only [frameToChunk, firstFrameOfChunk, chunkFrames] at hchunk ⊢
    omega
  · rw [hplayhead]

end

/-- The classification at the playhead of a tile that is labelled. -/
structure CurrentLabel (cfg : Config) (sub : Submission) (t : PendingRenderTile) (frame : Int) :
    Prop where
  same : SamePlayhead cfg frame sub.playheadFrame
  priority : (sub.recomputed cfg t).classification.priority = t.classification.priority
  deadlineFrame : (sub.recomputed cfg t).classification.deadlineFrame =
    t.classification.deadlineFrame
  sequence : (sub.recomputed cfg t).sequence = t.sequence
  current : (sub.recomputed cfg t).classification.distanceInFrames =
    |firstFrameOfChunk (sub.chunk t.job) - sub.playheadFrame|
  stored : t.classification.distanceInFrames = |firstFrameOfChunk (sub.chunk t.job) - frame|
  noDeadline : t.classification.priority ≠ .urgent → t.classification.deadlineFrame = -1

theorem Submission.Ok.currentLabel {sub : Submission} (hcfg : cfg.Valid) (h : sub.Ok cfg)
    (hpolicy : cfg.scheduler.policyType = .priority) {t : PendingRenderTile}
    (ht : t ∈ sub.tile :: sub.pending) : ∃ frame, CurrentLabel cfg sub t frame := by
  obtain ⟨h₀, h₁⟩ := h.playhead hpolicy
  obtain ⟨classification, frame, hsame, hclassify, hpriority, hdeadline, hcurrent, hstored⟩ :=
    (h.labelled hpolicy t ht).classify hcfg h₀ h₁
  have hrecomputed : sub.recomputed cfg t = { t with classification } := by
    unfold Submission.recomputed
    rw [hclassify]
  refine ⟨frame, hsame, ?_, ?_, ?_, ?_, hstored, fun hurgent => ?_⟩
  · rw [hrecomputed]
    exact hpriority
  · rw [hrecomputed]
    exact hdeadline
  · rw [hrecomputed]
  · rw [hrecomputed]
    exact hcurrent
  · rw [classifyChunk_eq (classifyChunk_mem hclassify) h₀ h₁, Except.ok.injEq] at hclassify
    rw [← hdeadline, ← hclassify]
    refine if_neg fun h => hurgent ?_
    rw [← hpriority, ← hclassify]
    exact h

/-- Of two chunks on one side of the playhead the nearer one is nearer wherever in its chunk the
playhead was when the distances were measured. -/
theorem nearer_of_same_side {a b playhead frame frame' : Int}
    (hlt : frame < frame' + chunkFrames) (hlt' : frame' < frame + chunkFrames)
    (ha : frame < a * chunkFrames ↔ playhead < a * chunkFrames)
    (hb : frame' < b * chunkFrames ↔ playhead < b * chunkFrames)
    (hside : playhead < a * chunkFrames ↔ playhead < b * chunkFrames) (hne : a ≠ b)
    (h : |a * chunkFrames - frame| ≤ |b * chunkFrames - frame'|) :
    |a * chunkFrames - playhead| < |b * chunkFrames - playhead| := by
  simp only [chunkFrames] at *
  by_cases hahead : playhead < a * 2048
  · rw [abs_of_pos (by omega), abs_of_pos (by omega)] at h ⊢
    omega
  · rw [abs_of_nonpos (by omega), abs_of_nonpos (by omega)] at h ⊢
    omega

/-- Distances measured at frames near the playhead differ from the current ones by less than a
chunk each. -/
theorem distance_lt_of_stale {a b playhead frame frame' : Int}
    (h₁ : frame < playhead + chunkFrames) (h₂ : playhead < frame + chunkFrames)
    (h₃ : frame' < playhead + chunkFrames) (h₄ : playhead < frame' + chunkFrames)
    (h : |a - frame| ≤ |b - frame'|) : |a - playhead| < |b - playhead| + 2 * chunkFrames := by
  have ha := abs_sub_le a frame playhead
  have hb := abs_sub_le b playhead frame'
  have hframe : |frame - playhead| < chunkFrames := abs_lt.mpr ⟨by omega, by omega⟩
  have hframe' : |playhead - frame'| < chunkFrames := abs_lt.mpr ⟨by omega, by omega⟩
  omega

/-- **Stale distances.** A pending tile that precedes the submitted one does so by a distance. -/
theorem Submission.Ok.staleDistance {sub : Submission} (hcfg : cfg.Valid) (h : sub.Ok cfg)
    (hpolicy : cfg.scheduler.policyType = .priority) {t : PendingRenderTile}
    (ht : t ∈ sub.pending) (hprecedes : sub.Precedes cfg t) : sub.StaleDistance cfg t := by
  have hmem : t ∈ sub.tile :: sub.pending := List.mem_cons_of_mem _ ht
  have hle := (h.playhead hpolicy).2
  obtain ⟨frame, hl⟩ := h.currentLabel hcfg hpolicy List.mem_cons_self
  obtain ⟨frame', hl'⟩ := h.currentLabel hcfg hpolicy hmem
  have hstored := h.sorted.head t ht
  rw [hpolicy] at hstored
  have hstored := (PrioritySchedulingPolicy.hasLowerPrecedence_eq_false _ _).mp hstored
  have hcurrent := (PrioritySchedulingPolicy.hasLowerPrecedence_iff _ _).mp hprecedes
  simp only [RenderClassification.comparedDeadline, hl.priority, hl.deadlineFrame, hl'.priority,
    hl'.deadlineFrame, hl.sequence, hl'.sequence] at hstored hcurrent
  have hpriority : sub.tile.classification.priority = t.classification.priority :=
    RenderPriority.toInt_inj.mp (by omega)
  have hdeadline : sub.tile.classification.deadlineFrame = t.classification.deadlineFrame := by
    by_cases hurgent : t.classification.priority = .urgent
    · simp only [hpriority, hurgent, if_true] at hstored hcurrent
      omega
    · rw [hl.noDeadline (hpriority ▸ hurgent), hl'.noDeadline hurgent]
  simp only [hpriority, hdeadline, lt_irrefl, false_or, true_and] at hstored hcurrent
  have hdistance : |firstFrameOfChunk (sub.chunk sub.tile.job) - frame| ≤
      |firstFrameOfChunk (sub.chunk t.job) - frame'| := by
    rw [← hl.stored, ← hl'.stored]
    omega
  have hnear := hl.same.near hcfg hle
  have hnear' := hl'.same.near hcfg hle
  refine ⟨hl.priority.trans (hpriority.trans hl'.priority.symm),
    hl.deadlineFrame.trans (hdeadline.trans hl'.deadlineFrame.symm), ?_⟩
  by_cases hchunk : sub.chunk sub.tile.job = sub.chunk t.job
  · refine .inr ⟨hchunk, fun hjob => ?_⟩
    -- The tiles of one job are classified together.
    have hsame := h.uniform sub.tile List.mem_cons_self t hmem hjob
    rw [hl.current, hl'.current, hchunk] at hcurrent
    rw [hsame] at hstored
    omega
  · refine .inl ⟨fun hside => ?_, ?_⟩
    · have hbetween := SamePlayhead.near hcfg
        (hl.same.trans hl'.same.chunk.symm hl'.same.urgentEnd.symm) hl'.same.le_total
      have hnearer := nearer_of_same_side hbetween.1 hbetween.2
        (hl.same.ahead_iff hcfg hle (sub.chunk sub.tile.job))
        (hl'.same.ahead_iff hcfg hle (sub.chunk t.job)) hside hchunk hdistance
      rw [hl.current, hl'.current] at hcurrent
      unfold firstFrameOfChunk at hcurrent
      omega
    · rw [hl.current, hl'.current]
      exact distance_lt_of_stale hnear.1 hnear.2 hnear'.1 hnear'.2 hdistance

/-! ## Every run -/

/-- Under the priority policy, every tile was submitted before the tiles that stayed pending, by
their current classifications but for stale distances. -/
def DispatchInOrder (cfg : Config) (s : EngineState S) : Prop :=
  cfg.scheduler.policyType = .priority → ∀ sub ∈ s.schedulingHistory.submissions,
    ∀ t ∈ sub.pending, sub.Precedes cfg t → sub.StaleDistance cfg t

/-- **Dispatch order.** In every run under the priority policy, a tile that stays pending precedes
the submitted one by the current classifications only if both have the same class and deadline,
and either their chunks are on opposite sides of the playhead, at distances that differ by less
than two chunks, or they belong to two jobs of one chunk. -/
theorem sessionRun_dispatchInOrder [Zero S] (cfg : AcceptedConfig) (kernel : RenderKernel S)
    (moves : List (SessionMove S)) :
    DispatchInOrder cfg.toConfig (sessionRun cfg.toConfig kernel moves).state :=
  fun hpolicy sub hsub _ ht hprecedes =>
    ((sessionRun_planInv cfg kernel moves).submissions sub hsub).staleDistance cfg.valid hpolicy ht
      hprecedes

/-! ## A playhead that moves within its chunk -/

/-- Every tile is submitted before the tiles that stay pending, by their current classifications. -/
def DispatchInCurrentOrder (cfg : Config) (s : EngineState S) : Prop :=
  cfg.scheduler.policyType = .priority → ∀ sub ∈ s.schedulingHistory.submissions,
    ∀ t ∈ sub.pending, ¬sub.Precedes cfg t

instance (cfg : Config) (s : EngineState S) : Decidable (DispatchInCurrentOrder cfg s) :=
  inferInstanceAs (Decidable (_ → _))

instance (sub : Submission) (t : PendingRenderTile) : Decidable (sub.Ahead t) :=
  inferInstanceAs (Decidable (_ < _))

/-- An engine with three chunks of two blocks each that starts to play without a prebuffer. -/
def threeChunkConfig : AcceptedConfig where
  totalFrames := 6144
  audio := { audioBlockFrames := 1024, channelCount := 1 }
  executor := { workerCount := 32, renderTasksQueueCapacity := 32 }
  scheduler := { prebufferBlocks := 0, lowWaterBlocks := 0, highWaterBlocks := 0, urgentChunks := 1 }
  int32 := by decide
  accepted := by decide

def loopSteps (n : ℕ) (refuses : Bool) : List (SessionMove ℤ) :=
  List.replicate n (.whole (.schedulerLoop fun _ => refuses))

/-- All three chunks are scheduled with the playhead at the start of the second one and the
executor refusing; a block is played, the third chunk is edited, and the executor accepts. -/
def playheadMoves : List (SessionMove ℤ) :=
  [.whole .engineStart, .whole (.post { type := .seek, firstFrame := 2048 }),
   .whole (.post { type := .play })] ++ loopSteps 10 true ++
  [.whole (.processBlock ⟨[some fun _ => 0], 1024⟩),
   .whole (.post { type := .edit, firstFrame := 4300 })] ++ loopSteps 9 false

/-- The first chunk is submitted before the third one, which has become nearer; and the new job of
the third chunk before the older one that the edit has cancelled. -/
theorem sessionRun_dispatch_outOfOrder :
    ¬DispatchInCurrentOrder threeChunkConfig.toConfig
        (sessionRun threeChunkConfig.toConfig (fun _ _ _ => 0) playheadMoves).state ∧
      (∃ sub ∈ (sessionRun threeChunkConfig.toConfig (fun _ _ _ => 0)
          playheadMoves).state.schedulingHistory.submissions, ∃ t ∈ sub.pending,
        sub.Precedes threeChunkConfig.toConfig t ∧ ¬(sub.Ahead sub.tile ↔ sub.Ahead t)) ∧
      ∃ sub ∈ (sessionRun threeChunkConfig.toConfig (fun _ _ _ => 0)
          playheadMoves).state.schedulingHistory.submissions, ∃ t ∈ sub.pending,
        sub.Precedes threeChunkConfig.toConfig t ∧
          sub.chunk sub.tile.job = sub.chunk t.job ∧ sub.tile.job ≠ t.job := by
  decide +kernel

end Anasa
