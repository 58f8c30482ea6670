import Anasa.Rendering.Guarantees
import Anasa.Scheduling.CoverageGuarantees

/-!
# What is rendered, and how often

Two facts about all runs of sessions. An uncancelled job for the current version of a chunk is
registered or its audio is in the cache, so no work is lost; and a second job for the same version
of a chunk is made only after the first one was cancelled, so no work is repeated. In a stretch
without edits and cancellations that makes a lap of the timeline, the jobs made are exactly those
for the chunks that were not covered, and once nothing is outstanding every chunk is in the cache.
-/

namespace Anasa

open Concurrency Contract Pool Scheduler

variable {S : Type} {cfg : Config} {kernel : RenderKernel S} {r r' : RenderState S}

/-! ## Work that is done -/

/-- The chunk and the version of a job. -/
def JobTable.origin (jobs : JobTable S) (j : JobId) : Int × Int := jobs.origins.2 j

/-- No work is lost, and none is repeated. -/
structure WorkDone (cfg : Config) (r : RenderState S) : Prop where
  /-- An uncancelled job for the current version is registered, or its chunk is in the cache. -/
  kept : ∀ j < r.jobs.made, (r.jobs.job j).cancelled = false →
    (r.jobs.job j).version = r.versions (r.jobs.job j).chunk →
    (r.cacheEntries (r.jobs.job j).chunk).version = r.versions (r.jobs.job j).chunk ∨
      r.activeJobs (r.jobs.job j).chunk = some j
  /-- Of two jobs for one version of a chunk, the earlier one is cancelled. -/
  once : ∀ i j, i < j → j < r.jobs.made → r.jobs.origin i = r.jobs.origin j →
    (r.jobs.job i).cancelled = true

theorem origin_of_jobsKept (h : JobsKept r.jobs r'.jobs) {j : JobId} (hj : j < r.jobs.made) :
    r'.jobs.origin j = r.jobs.origin j := Prod.ext (h.chunk j hj) (h.version j hj)

/-- A live job after a step was a live one before. -/
theorem live_of_jobsKept (h : JobsKept r.jobs r'.jobs) {j : JobId} (hj : j < r.jobs.made)
    (hlive : (r'.jobs.job j).cancelled = false) : (r.jobs.job j).cancelled = false :=
  Bool.eq_false_iff.mpr fun hc => Bool.eq_false_iff.mp hlive (h.cancelled j hj hc)

namespace WorkDone

/-- A live job of the current version covers its chunk. -/
theorem covered (h : WorkDone cfg r) (hi : RenderInv cfg kernel r) {j : JobId}
    (hj : j < r.jobs.made) (hlive : (r.jobs.job j).cancelled = false)
    (hversion : (r.jobs.job j).version = r.versions (r.jobs.job j).chunk) :
    Covered cfg r (r.jobs.job j).chunk :=
  covered_iff_currentJob.mpr ⟨hi.jobs.chunk_mem j hj,
    (h.kept j hj hlive hversion).imp_right fun hactive => ⟨j, hactive, hversion, hlive⟩⟩

/-- A step of another thread. -/
theorem of_schedulerKept (h : WorkDone cfg r) (hjobs : JobsKept r.jobs r'.jobs)
    (hkept : SchedulerKept r r') : WorkDone cfg r' := by
  constructor
  · intro j hj hlive hversion
    rw [hkept.made] at hj
    rw [hjobs.chunk j hj, hjobs.version j hj, hkept.versions] at hversion
    rw [hjobs.chunk j hj, hkept.versions, hkept.cacheEntries, hkept.activeJobs]
    exact h.kept j hj (live_of_jobsKept hjobs hj hlive) hversion
  · intro i j hij hj horigin
    rw [hkept.made] at hj
    rw [origin_of_jobsKept hjobs hj, origin_of_jobsKept hjobs (hij.trans hj)] at horigin
    exact hjobs.cancelled i (hij.trans hj) (h.once i j hij hj horigin)

/-- What a step of the scheduler does to the jobs that were there. -/
theorem kept_step (h : WorkDone cfg r) (hi : RenderInv cfg kernel r)
    (hjobs : JobsKept r.jobs r'.jobs) (hwork : WorkKept cfg r r') {j : JobId}
    (hj : j < r.jobs.made) (hlive : (r'.jobs.job j).cancelled = false)
    (hversion : (r'.jobs.job j).version = r'.versions (r'.jobs.job j).chunk) :
    (r'.cacheEntries (r'.jobs.job j).chunk).version = r'.versions (r'.jobs.job j).chunk ∨
      r'.activeJobs (r'.jobs.job j).chunk = some j := by
  have hbefore := live_of_jobsKept hjobs hj hlive
  rw [hjobs.chunk j hj] at hversion ⊢
  rw [hjobs.version j hj] at hversion
  have hle := hi.jobs.version_le j hj
  have hle' := hwork.versions_le (r.jobs.job j).chunk
  have hsame : r'.versions (r.jobs.job j).chunk = r.versions (r.jobs.job j).chunk := by omega
  rw [hsame] at hversion
  rcases h.kept j hj hbefore hversion with hcached | hactive
  · exact .inl (hwork.cached _ hsame hcached)
  · exact (hwork.job _ j hsame ⟨hactive, hversion, hbefore⟩ hlive).imp_right (·.registered)

/-- A step of the scheduler. -/
theorem step (h : WorkDone cfg r) (hi : RenderInv cfg kernel r)
    (hjobs : JobsKept r.jobs r'.jobs) (hwork : WorkKept cfg r r') : WorkDone cfg r' := by
  have hold : ∀ i j, i < j → j < r.jobs.made → r'.jobs.origin i = r'.jobs.origin j →
      (r'.jobs.job i).cancelled = true := by
    intro i j hij hj horigin
    rw [origin_of_jobsKept hjobs hj, origin_of_jobsKept hjobs (hij.trans hj)] at horigin
    exact hjobs.cancelled i (hij.trans hj) (h.once i j hij hj horigin)
  rcases hwork.made with hmade | ⟨chunk, hadmits⟩
  · have hmade : r'.jobs.made = r.jobs.made := congrArg Prod.fst hmade
    exact ⟨fun j hj => h.kept_step hi hjobs hwork (hmade ▸ hj),
      fun i j hij hj => hold i j hij (hmade ▸ hj)⟩
  · have hmade : r'.jobs.made = r.jobs.made + 1 := congrArg Prod.fst hadmits.origins
    have hnew : r'.jobs.origin r.jobs.made = (chunk, r.versions chunk) := by
      rw [JobTable.origin, hadmits.origins]
      exact Function.update_self ..
    constructor
    · intro j hj hlive hversion
      rcases Nat.lt_succ_iff_lt_or_eq.mp (hmade ▸ hj) with hj | rfl
      · exact h.kept_step hi hjobs hwork hj hlive hversion
      · refine .inr ?_
        rw [show (r'.jobs.job r.jobs.made).chunk = chunk from congrArg Prod.fst hnew]
        exact hadmits.current.registered
    · intro i j hij hj horigin
      rcases Nat.lt_succ_iff_lt_or_eq.mp (hmade ▸ hj) with hj | rfl
      · exact hold i j hij hj horigin
      · -- A live job of the version would have covered the chunk.
        rw [hnew, origin_of_jobsKept hjobs hij, JobTable.origin, JobTable.origins,
          Prod.mk.injEq] at horigin
        obtain ⟨rfl, hversion⟩ := horigin
        refine hjobs.cancelled i hij ?_
        by_contra hlive
        exact hadmits.uncovered
          (h.covered hi hij (Bool.eq_false_iff.mpr hlive) hversion)

end WorkDone

/-! ## Runs -/

section

variable [Zero S] {cfg : AcceptedConfig}

/-- An access of a thread of a session. -/
theorem workStep_of_guar {i : ThreadId} {s s' : EngineState S}
    (hi : (workLayer cfg.valid kernel).discipline.inv s)
    (hi' : (workLayer cfg.valid kernel).discipline.inv s')
    (hg : (workLayer cfg.valid kernel).discipline.guar i s s') :
    JobsKept s.render.jobs s'.render.jobs ∧
      (WorkKept cfg.toConfig s.render s'.render ∨ SchedulerKept s.render s'.render) := by
  by_cases hs : i = .scheduler
  · subst hs
    have hjobs : renderRely (.worker 0) s s' := hg.1.1 (.worker 0) (by decide)
    exact ⟨hjobs.1, .inl (hg.2 rfl)⟩
  · have hr := ((workLayer cfg.valid kernel).discipline.compatible hs hi hi' hg).1.1
    exact ⟨hr.1, .inr hr.2.1⟩

/-- **Every run** loses no work and repeats none. -/
theorem sessionRun_workDone (cfg : AcceptedConfig) (kernel : RenderKernel S)
    (moves : List (SessionMove S)) :
    WorkDone cfg.toConfig (sessionRun cfg kernel moves).state.render := by
  refine (workLayer_sound cfg kernel []).run_guar
    (R := fun s s' : EngineState S => WorkDone cfg.toConfig s.render → WorkDone cfg.toConfig s'.render)
    (fun _ h => h) (fun h h' hs => h' (h hs)) (fun i s s' hi hi' hg hs => ?_) moves
    ⟨nofun, nofun⟩
  obtain ⟨hjobs, hwork | hkept⟩ := workStep_of_guar hi hi' hg
  · exact hs.step hi.1.1 hjobs hwork
  · exact hs.of_schedulerKept hjobs hkept

/-- What is rendered in a run: no work is lost and none repeated, and a thread that makes a job
makes it for the current version of a chunk that is not covered. -/
structure RendersOnce (cfg : Config) (p : Pool ThreadId (EngineState S)) : Prop where
  done : WorkDone cfg p.state.render
  made : ∀ i, (p.access i).state.render.jobs.made = p.state.render.jobs.made ∨
    ∃ chunk, Admits cfg chunk p.state.render (p.access i).state.render

/-- **Nothing is rendered twice.** -/
theorem sessionRun_rendersOnce (cfg : AcceptedConfig) (kernel : RenderKernel S)
    (moves : List (SessionMove S)) :
    RendersOnce cfg.toConfig (sessionRun cfg kernel moves) := by
  refine ⟨sessionRun_workDone cfg kernel moves, fun i => ?_⟩
  have hsound := workLayer_sound cfg kernel moves
  rcases hsound.access_guar i with hsame | hg
  · exact .inl (by rw [hsame])
  · obtain ⟨-, hwork | hkept⟩ := workStep_of_guar hsound.inv (hsound.access i).inv hg
    · exact hwork.made.imp_left (congrArg Prod.fst)
    · exact .inl hkept.made

end

/-! ## Quiet stretches -/

/-- The jobs made since are for chunks that were not covered, one for each; and they alone cover
chunks. -/
structure RendersUncovered (cfg : Config) (r r' : RenderState S) : Prop where
  uncovered : ∀ c j, MadeFor r r' c j → ¬Covered cfg r c
  covered : ∀ c j, MadeFor r r' c j → Covered cfg r' c
  once : ∀ c i j, MadeFor r r' c i → MadeFor r r' c j → i = j
  needed : ∀ c, Covered cfg r' c → Covered cfg r c ∨ ∃ j, MadeFor r r' c j

/-- What a stretch of a run does to the work, if it is quiet. -/
structure WorkStretch (cfg : Config) (r r' : RenderState S) : Prop where
  mono : CoverageMono r r'
  jobs : JobsKept r.jobs r'.jobs
  kept : NothingLost r r' → ∀ c, Covered cfg r c → Covered cfg r' c
  renders : NothingLost r r' → RendersUncovered cfg r r'

/-- A job of a stretch was made in one of its parts. -/
theorem madeFor_split {r₁ r₂ r₃ : RenderState S} (h : JobsKept r₁.jobs r₂.jobs)
    (h' : JobsKept r₂.jobs r₃.jobs) (c : Int) (j : JobId) :
    MadeFor r₁ r₃ c j ↔ MadeFor r₁ r₂ c j ∨ MadeFor r₂ r₃ c j := by
  constructor
  · rintro ⟨hle, hlt, hchunk⟩
    rcases lt_or_ge j r₂.jobs.made with hj | hj
    · exact .inl ⟨hle, hj, (h'.chunk j hj).symm.trans hchunk⟩
    · exact .inr ⟨hj, hlt, hchunk⟩
  · rintro (⟨hle, hlt, hchunk⟩ | ⟨hle, hlt, hchunk⟩)
    · exact ⟨hle, hlt.trans_le h'.made_le, (h'.chunk j hlt).trans hchunk⟩
    · exact ⟨h.made_le.trans hle, hlt, hchunk⟩

theorem WorkStretch.refl (cfg : Config) (r : RenderState S) : WorkStretch cfg r r := by
  have hnone : ∀ c j, ¬MadeFor r r c j := fun c j h => absurd h.lt (not_lt_of_ge h.le)
  exact ⟨CoverageMono.refl r, JobsKept.refl _, fun _ _ h => h, fun _ =>
    ⟨fun c j h => absurd h (hnone c j), fun c j h => absurd h (hnone c j),
      fun c i _ h => absurd h (hnone c i), fun _ => .inl⟩⟩

theorem WorkStretch.trans {r₁ r₂ r₃ : RenderState S} (h : WorkStretch cfg r₁ r₂)
    (h' : WorkStretch cfg r₂ r₃) : WorkStretch cfg r₁ r₃ := by
  refine ⟨h.mono.trans h'.mono, h.jobs.trans h'.jobs, fun hquiet => ?_, fun hquiet => ?_⟩
  · obtain ⟨h₁, h₂⟩ := hquiet.split h.mono h'.mono
    exact fun c hc => h'.kept h₂ c (h.kept h₁ c hc)
  · obtain ⟨h₁, h₂⟩ := hquiet.split h.mono h'.mono
    have hfirst := h.renders h₁
    have hsecond := h'.renders h₂
    have hsplit := madeFor_split h.jobs h'.jobs
    have hapart : ∀ c i j, MadeFor r₁ r₂ c i → ¬MadeFor r₂ r₃ c j := fun c i j hi hj =>
      hsecond.uncovered c j hj (hfirst.covered c i hi)
    constructor
    · intro c j hj
      rcases (hsplit c j).mp hj with hj | hj
      · exact hfirst.uncovered c j hj
      · exact fun hc => hsecond.uncovered c j hj (h.kept h₁ c hc)
    · intro c j hj
      rcases (hsplit c j).mp hj with hj | hj
      · exact h'.kept h₂ c (hfirst.covered c j hj)
      · exact hsecond.covered c j hj
    · intro c i j hi hj
      rcases (hsplit c i).mp hi with hi | hi <;> rcases (hsplit c j).mp hj with hj | hj
      · exact hfirst.once c i j hi hj
      · exact absurd hj (hapart c i j hi)
      · exact absurd hi (hapart c j i hj)
      · exact hsecond.once c i j hi hj
    · intro c hc
      rcases hsecond.needed c hc with hc | ⟨j, hj⟩
      · exact (hfirst.needed c hc).imp_right fun ⟨j, hj⟩ => ⟨j, (hsplit c j).mpr (.inl hj)⟩
      · exact .inr ⟨j, (hsplit c j).mpr (.inr hj)⟩

/-- A step of the scheduler. -/
theorem WorkKept.workStretch (h : WorkKept cfg r r') (hi : RenderInv cfg kernel r)
    (hjobs : JobsKept r.jobs r'.jobs) : WorkStretch cfg r r' := by
  refine ⟨.of_jobsKept hjobs h.versions_le, hjobs, (h.coverageKept hi).kept, fun hquiet => ?_⟩
  have hneeded : ∀ c, Covered cfg r' c → Covered cfg r c ∨ ∃ j, MadeFor r r' c j := fun c =>
    h.covers hjobs c (congrFun hquiet.versions c)
  rcases h.made with hsame | ⟨chunk, hadmits⟩
  · have hnone : ∀ c j, ¬MadeFor r r' c j := fun c j hj =>
      absurd (hj.lt.trans_eq (congrArg Prod.fst hsame)) (not_lt_of_ge hj.le)
    exact ⟨fun c j hj => absurd hj (hnone c j), fun c j hj => absurd hj (hnone c j),
      fun c i _ hi => absurd hi (hnone c i), hneeded⟩
  · have hmade : r'.jobs.made = r.jobs.made + 1 := congrArg Prod.fst hadmits.origins
    have hchunk : (r'.jobs.job r.jobs.made).chunk = chunk := by
      have hnew := congrFun (congrArg Prod.snd hadmits.origins) r.jobs.made
      dsimp only at hnew
      rw [Function.update_self] at hnew
      exact congrArg Prod.fst hnew
    have honly : ∀ c j, MadeFor r r' c j → j = r.jobs.made ∧ c = chunk := by
      intro c j hj
      obtain rfl : j = r.jobs.made :=
        le_antisymm (Nat.le_of_lt_succ (hj.lt.trans_eq hmade)) hj.le
      exact ⟨rfl, hj.chunk_eq.symm.trans hchunk⟩
    constructor
    case uncovered =>
      intro c j hj
      rw [(honly c j hj).2]
      exact hadmits.uncovered
    case covered =>
      intro c j hj
      rw [(honly c j hj).2]
      exact covered_iff_currentJob.mpr ⟨hadmits.chunk_mem, .inr ⟨_, hadmits.current⟩⟩
    case once =>
      intro c i j hi hj
      exact (honly c i hi).1.trans (honly c j hj).1.symm
    case needed => exact hneeded

/-- A step of another thread. -/
theorem workStretch_of_schedulerKept (hi : RenderInv cfg kernel r')
    (hi₀ : RenderInv cfg kernel r) (hjobs : JobsKept r.jobs r'.jobs) (hkept : SchedulerKept r r') :
    WorkStretch cfg r r' := by
  have hnone : ∀ c j, ¬MadeFor r r' c j := by
    intro c j hj
    exact absurd (hj.lt.trans_eq hkept.made) (not_lt_of_ge hj.le)
  constructor
  case mono => exact .of_jobsKept hjobs fun c => (congrFun hkept.versions c).ge
  case jobs => exact hjobs
  case kept =>
    intro hquiet c hc
    rw [covered_iff_currentJob] at hc ⊢
    rw [hkept.versions, hkept.cacheEntries]
    refine ⟨hc.1, hc.2.imp_right ?_⟩
    rintro ⟨j, hj⟩
    have hlt := hi₀.registered_lt c j hj.registered
    refine ⟨j, hkept.activeJobs ▸ hj.registered, ?_, hquiet.live (hkept.made ▸ hlt) hj.live⟩
    rw [hjobs.version j hlt, hkept.versions]
    exact hj.version
  case renders =>
    intro _
    constructor
    case uncovered => exact fun c j hj => absurd hj (hnone c j)
    case covered => exact fun c j hj => absurd hj (hnone c j)
    case once => exact fun c i _ hi => absurd hi (hnone c i)
    case needed => exact fun c hc => .inl ((uncovers_of_rely hi hjobs hkept).covered c hc)

section

variable [Zero S] {cfg : AcceptedConfig}

/-- **Every stretch** of a run. -/
theorem sessionRun_workStretch (cfg : AcceptedConfig) (kernel : RenderKernel S)
    (moves later : List (SessionMove S)) :
    WorkStretch cfg.toConfig (sessionRun cfg kernel moves).state.render
      (sessionRun cfg kernel (moves ++ later)).state.render := by
  rw [sessionRun_append]
  refine (workLayer_sound cfg kernel moves).run_guar
    (R := fun s s' : EngineState S => WorkStretch cfg.toConfig s.render s'.render)
    (fun s => .refl cfg.toConfig s.render) (fun h h' => h.trans h')
    (fun i s s' hi hi' hg => ?_) later
  obtain ⟨hjobs, hwork | hkept⟩ := workStep_of_guar hi hi' hg
  · exact hwork.workStretch hi.1.1 hjobs
  · exact workStretch_of_schedulerKept hi'.1.1 hi.1.1 hjobs hkept

/-! ## Rest -/

/-- The session is open, and no tile and no completion is on its way. -/
structure NoneOutstanding (r : RenderState S) : Prop where
  isOpen : r.history.sessionOpen = true
  outstanding : r.outstanding = []
  publishing : r.executor.publishing = []
  completed : r.executor.completedJobs = []

omit [Zero S] in
/-- At rest, what is covered is in the cache. -/
theorem NoneOutstanding.cacheIsCurrent_of_covered {cfg : Config} (h : NoneOutstanding r)
    (hi : RenderInv cfg kernel r) {c : Int} (hc : Covered cfg r c) :
    cacheIsCurrent cfg c r = true := by
  apply hc.resolve_right
  intro hcurrent
  have hc := covered_iff_currentJob.mp (.inr hcurrent)
  unfold ActiveRenderJobs.hasCurrent at hcurrent
  rw [if_neg (by omega)] at hcurrent
  rcases hj : r.activeJobs c with - | j
  · rw [hj] at hcurrent
    cases hcurrent
  · rcases hi.registered_progress h.isOpen hj with ⟨task, htask, -⟩ | hpublishing | hcompleted
    · rw [h.outstanding] at htask
      cases htask
    · rw [h.publishing] at hpublishing
      cases hpublishing
    · rw [h.completed] at hcompleted
      cases hcompleted

/-- A stretch of a run from just before a call that schedules: nothing is edited and no job is
cancelled in it, and the steps of its scan make up a lap of the timeline. -/
structure QuietLap (cfg : AcceptedConfig) (kernel : RenderKernel S)
    (moves : List (SessionMove S)) (refuses : ℕ → Bool) (call later : List (SessionMove S)) :
    Prop where
  schedules : ScheduleCall cfg kernel moves refuses call
  quiet : NothingLost (sessionRun cfg kernel moves).state.render
    (sessionRun cfg kernel (moves ++ call ++ later)).state.render
  lap : ∃ steps, (sessionRun cfg kernel (moves ++ call ++ later)).state.schedulingHistory.scanSteps =
      steps ++ (sessionRun cfg kernel moves).state.schedulingHistory.scanSteps ∧
    cfg.chunkCount ≤ (steps.length : Int)

/-- A lap covers the timeline. -/
theorem QuietLap.covered {moves call later : List (SessionMove S)} {refuses : ℕ → Bool}
    (h : QuietLap cfg kernel moves refuses call later) {c : Int}
    (hc : 0 ≤ c ∧ c < cfg.chunkCount) :
    Covered cfg.toConfig (sessionRun cfg kernel (moves ++ call ++ later)).state.render c := by
  obtain ⟨⟨steps, hscan⟩, -⟩ := h.schedules.result
  have hcovered : ∀ step ∈ steps, Covered cfg.toConfig
      (sessionRun cfg kernel (moves ++ call)).state.render step.chunk := fun step hstep =>
    (covered_iff (sessionRun_jobsMade _)).mpr (hscan.covered step hstep)
  have hquiet := (h.quiet.split (sessionRun_workStretch cfg kernel moves call).mono
    (sessionRun_workStretch cfg kernel (moves ++ call) later).mono).2
  obtain ⟨all, hall, hlap⟩ := h.lap
  exact lapCovers_of_stretch (sessionRun_planInv cfg kernel moves).cursor hscan.history hscan.passes
    hcovered (scanStretch_of_quiet (moves ++ call) later h.schedules.returned hquiet) hquiet all hall
    hlap c hc

/-- What a lap renders. -/
structure LapRenders (cfg : Config) (r r' : RenderState S) : Prop where
  /-- A job is made for each chunk that was not covered, and for no other. -/
  needed : ∀ c, 0 ≤ c ∧ c < cfg.chunkCount → (¬Covered cfg r c ↔ ∃ j, MadeFor r r' c j)
  once : ∀ c i j, MadeFor r r' c i → MadeFor r r' c j → i = j
  /-- When all is done, the whole timeline is in the cache. -/
  rest : NoneOutstanding r' → ∀ c, 0 ≤ c ∧ c < cfg.chunkCount → cacheIsCurrent cfg c r' = true

/-- **Rendering the timeline.** A lap without edits and cancellations makes one job for each chunk
that was not covered and none for the others; once nothing is outstanding, every chunk is in the
cache. -/
theorem quietLap_rendersTimeline (cfg : AcceptedConfig) (kernel : RenderKernel S)
    (moves : List (SessionMove S)) (refuses : ℕ → Bool) (call later : List (SessionMove S))
    (h : QuietLap cfg kernel moves refuses call later) :
    LapRenders cfg.toConfig (sessionRun cfg kernel moves).state.render
      (sessionRun cfg kernel (moves ++ call ++ later)).state.render := by
  have hstretch := sessionRun_workStretch cfg kernel moves (call ++ later)
  rw [← List.append_assoc] at hstretch
  have hrenders := hstretch.renders h.quiet
  constructor
  case needed =>
    intro c hc
    constructor
    · intro huncovered
      exact (hrenders.needed c (h.covered hc)).resolve_left huncovered
    · rintro ⟨j, hj⟩
      exact hrenders.uncovered c j hj
  case once => exact hrenders.once
  case rest =>
    intro hrest c hc
    have hinv := (workLayer_sound cfg kernel (moves ++ call ++ later)).inv.1.1
    exact hrest.cacheIsCurrent_of_covered hinv (h.covered hc)

end

theorem quietLap_first : QuietLap threeChunkConfig (fun _ _ _ => (0 : ℤ)) firstScheduleMoves
    (fun _ => false) [.whole (.schedulerLoop fun _ => false)] [] where
  schedules := scheduleCall_first
  quiet := by
    have hmade : (sessionRun threeChunkConfig.toConfig (fun _ _ _ => 0)
        (firstScheduleMoves ++ [.whole (.schedulerLoop fun _ => false)])).state.render.jobs.made = 3 ∧
        ∀ j < 3, (sessionRun threeChunkConfig.toConfig (fun _ _ _ => 0)
          (firstScheduleMoves ++
            [.whole (.schedulerLoop fun _ => false)])).state.render.jobs.flags j = false := by
      decide +kernel
    rw [List.append_nil]
    refine ⟨rfl, fun j hj => ?_⟩
    simp only [JobTable.cancelledJob, Bool.and_eq_true, decide_eq_true_eq, hmade.1] at hj
    rw [hmade.2 j hj.1] at hj
    exact absurd hj.2 Bool.false_ne_true
  lap := ⟨[⟨2, 24⟩, ⟨1, 24⟩, ⟨0, 24⟩], by decide +kernel, by decide⟩

/-- The first call makes a job for each of the three chunks. -/
theorem quietLap_rendersTimeline_first :
    LapRenders threeChunkConfig.toConfig
        (sessionRun threeChunkConfig.toConfig (fun _ _ _ => (0 : ℤ)) firstScheduleMoves).state.render
        (sessionRun threeChunkConfig.toConfig (fun _ _ _ => 0)
          (firstScheduleMoves ++ [.whole (.schedulerLoop fun _ => false)] ++ [])).state.render ∧
      (sessionRun threeChunkConfig.toConfig (fun _ _ _ => 0)
        (firstScheduleMoves ++ [.whole (.schedulerLoop fun _ => false)])).state.render.jobs.made = 3 :=
  ⟨quietLap_rendersTimeline threeChunkConfig _ _ _ _ _ quietLap_first, by decide +kernel⟩

end Anasa
