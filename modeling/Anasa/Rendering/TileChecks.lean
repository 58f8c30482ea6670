import Mathlib.Data.Nat.Find
import Anasa.Concurrency.Environment
import Anasa.Rendering.WorkerSafety

/-!
# A tile under cancellation

`renderTile` in an environment: whatever the others store before each of its accesses, the answers
of its checks decide how many frames it writes. It is the program `checkedTile`: a check, the frames
up to the next check, and so on, with a last check at the end.
-/

namespace Anasa

open Concurrency RenderCancellation Renderer

variable {S : Type} {kernel : RenderKernel S} {task : RenderTask}

/-! ## The program -/

/-- The channels of some frames. -/
def renderRows (channelCount : Int) (kernel : RenderKernel S) (job : JobId) (frames : List Int) :
    Prog (EngineState S) Unit :=
  .forEach (fun frame => .forEach (fun channel => renderSample kernel job channel frame)
    (intRange 0 channelCount)) frames

/-- The first frame of a tile that is written after its `i`-th periodic check. -/
def checkedFrame (task : RenderTask) (i : ℕ) : Int :=
  task.tileIndex * tileFrames + cancellationCheckFrames * i

/-- What is rendered between a check and the next one; the first check is followed by another. -/
def rowsAfter (channelCount : Int) (kernel : RenderKernel S) (task : RenderTask) :
    ℕ → Prog (EngineState S) Unit
  | 0 => return
  | i + 1 => renderRows channelCount kernel task.job
      (intRange (checkedFrame task i) (checkedFrame task (i + 1)))

/-- A tile from its `i`-th check on, with so many checks after it. -/
def checkedTile (channelCount : Int) (kernel : RenderKernel S) (task : RenderTask) :
    ℕ → ℕ → Prog (EngineState S) (Except String Bool)
  | 0, _ => do
    if ← shouldCancel task.job then
      cancelJob task.job
      return .ok false
    else return .ok true
  | n + 1, i => do
    if ← shouldCancel task.job then
      cancelJob task.job
      return .ok false
    else
      rowsAfter channelCount kernel task i
      checkedTile channelCount kernel task n (i + 1)

/-- The number of checks of a tile: one before its first frame, one at every so many frames, and one
after its last frame. -/
def tileChecks : ℕ := (tileFrames / cancellationCheckFrames).toNat + 2

theorem renderChannels_eq (job : JobId) (frame : Int) (channels : List Int) :
    renderChannels kernel {} job frame channels = (do
      .forEach (fun channel => renderSample kernel job channel frame) channels
      return .ok ()) := by
  induction channels with
  | nil => rfl
  | cons channel rest ih =>
    rw [renderChannels, if_neg (by simp), ih, Prog.forEach, bind_assoc]

/-- Frames between two checks. -/
theorem renderFrames_unchecked {channelCount first : Int} {job : JobId} (frames rest : List Int)
    (h : ∀ f ∈ frames, (f - first) % cancellationCheckFrames ≠ 0) :
    renderFrames channelCount kernel {} job first (frames ++ rest) = (do
      renderRows channelCount kernel job frames
      renderFrames channelCount kernel {} job first rest) := by
  induction frames with
  | nil => rfl
  | cons f frames ih =>
    have hno : periodicCheck (S := S) job (f - first) = pure false :=
      if_neg (h f List.mem_cons_self)
    rw [List.cons_append, renderFrames, hno, pure_bind, if_neg (by simp), renderChannels_eq,
      bind_assoc]
    simp only [pure_bind]
    rw [ih fun f' hf' => h f' (List.mem_cons_of_mem _ hf')]
    exact (bind_assoc _ _ _).symm

/-- The frames from a check to the next one. -/
theorem renderFrames_checked {channelCount first : Int} {job : JobId} {f : Int}
    (frames rest : List Int) (hf : (f - first) % cancellationCheckFrames = 0)
    (h : ∀ f ∈ frames, (f - first) % cancellationCheckFrames ≠ 0) :
    renderFrames channelCount kernel {} job first (f :: frames ++ rest) = (do
      if ← shouldCancel job then
        cancelJob job
        return .ok false
      else
        renderRows channelCount kernel job (f :: frames)
        renderFrames channelCount kernel {} job first rest) := by
  have hyes : periodicCheck (S := S) job (f - first) = shouldCancel job := if_pos hf
  rw [List.cons_append, renderFrames, hyes]
  refine congrArg _ (funext fun cancel => ?_)
  cases cancel with
  | true => rfl
  | false =>
    rw [if_neg (by simp), if_neg (by simp), renderChannels_eq, bind_assoc]
    simp only [pure_bind]
    rw [renderFrames_unchecked frames rest h]
    exact (bind_assoc _ _ _).symm

theorem checkedFrame_succ (i : ℕ) :
    checkedFrame task (i + 1) = checkedFrame task i + cancellationCheckFrames := by
  unfold checkedFrame
  rw [Nat.cast_succ, mul_add, mul_one, add_assoc]

/-- The frames of one tile from a periodic check on. -/
theorem renderFrames_tail {channelCount : Int} (n i : ℕ) :
    (do
      match ← renderFrames channelCount kernel {} task.job (task.tileIndex * tileFrames)
          (intRange (checkedFrame task i) (checkedFrame task (i + n))) with
      | .error e => return .error e
      | .ok false => return .ok false
      | .ok true =>
        if ← shouldCancel task.job then
          cancelJob task.job
          return .ok false
        else return .ok true : Prog (EngineState S) (Except String Bool)) =
    checkedTile channelCount kernel task n (i + 1) := by
  induction n generalizing i with
  | zero =>
    rw [Nat.add_zero, intRange_nil le_rfl]
    rfl
  | succ n ih =>
    have hstep : checkedFrame task (i + 1) = checkedFrame task i + cancellationCheckFrames :=
      checkedFrame_succ i
    have hpos : (0 : Int) < cancellationCheckFrames := by decide
    have hend : checkedFrame task (i + (n + 1)) = checkedFrame task (i + 1 + n) := by
      rw [Nat.add_right_comm, Nat.add_assoc]
    have hle : checkedFrame task (i + 1) ≤ checkedFrame task (i + 1 + n) := by
      unfold checkedFrame cancellationCheckFrames
      push_cast
      omega
    have hsplit : intRange (checkedFrame task i) (checkedFrame task (i + 1 + n)) =
        checkedFrame task i :: intRange (checkedFrame task i + 1) (checkedFrame task (i + 1)) ++
          intRange (checkedFrame task (i + 1)) (checkedFrame task (i + 1 + n)) := by
      rw [← intRange_cons (show checkedFrame task i < checkedFrame task (i + 1) by omega)]
      exact (intRange_append (by omega) hle).symm
    have hrows : checkedFrame task i :: intRange (checkedFrame task i + 1)
        (checkedFrame task (i + 1)) =
          intRange (checkedFrame task i) (checkedFrame task (i + 1)) :=
      (intRange_cons (by omega)).symm
    rw [hend, hsplit, renderFrames_checked, hrows, bind_assoc]
    · refine congrArg _ (funext fun cancel => ?_)
      cases cancel with
      | true =>
        rw [if_pos rfl, if_pos rfl]
        rfl
      | false =>
        rw [if_neg (by simp), if_neg (by simp), bind_assoc, ih (i + 1)]
        rfl
    · unfold checkedFrame cancellationCheckFrames
      omega
    · intro f hf
      obtain ⟨hlo, hhi⟩ := mem_intRange.mp hf
      rw [hstep] at hhi
      unfold checkedFrame cancellationCheckFrames at *
      omega

instance (task : RenderTask) (f : Int) : Decidable (InTile task f) :=
  inferInstanceAs (Decidable (_ ∧ _))

/-- What the others leave alone of a tile: the chunk, the version and the shape of
the job, and the samples of the tile. -/
def tileView (task : RenderTask) (s : EngineState S) : Int × Int × Int × Int × (Int → Int → Option S) :=
  let job := s.render.jobs.job task.job
  (job.chunk, job.version, job.samples.channelCount, job.samples.frameCount, fun channel frame =>
    if InTile task frame then some (job.samples.sample channel frame) else none)

/-- A job of a chunk of the timeline with complete storage. -/
structure CompleteJob (cfg : Config) (job : JobId) (s : EngineState S) : Prop where
  chunk : 0 ≤ (s.render.jobs.job job).chunk ∧ (s.render.jobs.job job).chunk < cfg.chunkCount
  channelCount : 0 < (s.render.jobs.job job).samples.channelCount
  frameCount : (s.render.jobs.job job).samples.frameCount = chunkFrames

/-- A task that `renderTile` accepts: a tile of such a job. -/
structure Renderable (cfg : Config) (task : RenderTask) (s : EngineState S) : Prop
    extends CompleteJob cfg task.job s where
  tileIndex : 0 ≤ task.tileIndex ∧ task.tileIndex < tilesPerChunk

section

variable {cfg : Config} {env : ℕ → EngineState S → EngineState S}

/-- The point after the first access, which reads the job. -/
def afterRead (env : ℕ → EngineState S → EngineState S) (s : EngineState S) : EngineState S × ℕ :=
  (env 0 s, 1)

/-- The channels of the job. -/
def channelsOf (task : RenderTask) (s : EngineState S) : Int :=
  (s.render.jobs.job task.job).samples.channelCount

/-- `renderTile` reads the job and makes its checks. -/
theorem renderTile_runIn {s : EngineState S} (h : Renderable cfg task s)
    (henv : ∀ n s, tileView task (env n s) = tileView task s) :
    (Renderer.renderTile cfg kernel {} task.job task.tileIndex).runIn env (s, 0) =
      (checkedTile (channelsOf task s) kernel task (tileChecks - 1) 0).runIn env
        (afterRead env s) := by
  have hview := henv 0 s
  simp only [tileView, Prod.mk.injEq] at hview
  obtain ⟨hchunk, -, hchannels, hframes, -⟩ := hview
  have hindex := h.tileIndex
  have hread : ((Prog.read fun s : EngineState S => s.render.jobs.job task.job).runIn env (s, 0)) =
      ((env 0 s).render.jobs.job task.job, afterRead env s) := rfl
  have hlast : min (task.tileIndex * tileFrames + tileFrames) chunkFrames =
      checkedFrame task (0 + 8) := by
    unfold checkedFrame tilesPerChunk tileFrames chunkFrames cancellationCheckFrames at *
    omega
  have hfirst : intRange (task.tileIndex * tileFrames) = intRange (checkedFrame task 0) := by
    simp [checkedFrame]
  rw [Renderer.renderTile, if_neg (by omega), Prog.runIn_bind, hread]
  dsimp only
  rw [if_neg (by rw [hchunk]; have := h.chunk; omega),
    if_neg (by rw [hchannels, hframes, h.frameCount]; have := h.channelCount; omega), hchannels,
    hlast, hfirst]
  refine congrArg (fun p : Prog (EngineState S) (Except String Bool) =>
    p.runIn env (afterRead env s)) (congrArg _ (funext fun cancel => ?_))
  cases cancel with
  | true => rfl
  | false => exact renderFrames_tail 8 0

/-! ## Checks -/

/-- The point at which the given check begins, if no earlier one fires. -/
def checkPoint (env : ℕ → EngineState S → EngineState S) (kernel : RenderKernel S)
    (task : RenderTask) (s : EngineState S) : ℕ → EngineState S × ℕ
  | 0 => afterRead env s
  | i + 1 =>
    ((rowsAfter (channelsOf task s) kernel task i).runIn env
      ((shouldCancel task.job).runIn env (checkPoint env kernel task s i)).2).2

/-- The answer of the given check, if no earlier one fires. -/
def answer (env : ℕ → EngineState S → EngineState S) (kernel : RenderKernel S)
    (task : RenderTask) (s : EngineState S) (i : ℕ) : Bool :=
  ((shouldCancel task.job).runIn env (checkPoint env kernel task s i)).1

/-- The point after the given check. -/
def afterCheck (env : ℕ → EngineState S → EngineState S) (kernel : RenderKernel S)
    (task : RenderTask) (s : EngineState S) (i : ℕ) : EngineState S × ℕ :=
  ((shouldCancel task.job).runIn env (checkPoint env kernel task s i)).2

section

variable {s : EngineState S} {n i : ℕ}

/-- A check that fires cancels the job and ends the tile. -/
theorem checkedTile_fires (hfires : answer env kernel task s i = true) :
    (checkedTile (channelsOf task s) kernel task n i).runIn env (checkPoint env kernel task s i) =
      (.ok false, ((cancelJob task.job).runIn env (afterCheck env kernel task s i)).2) := by
  have hcheck : ((shouldCancel task.job).runIn env (checkPoint env kernel task s i)).1 = true :=
    hfires
  cases n with
  | zero => rw [checkedTile, Prog.runIn_bind, hcheck, if_pos rfl, Prog.runIn_bind]; rfl
  | succ n => rw [checkedTile, Prog.runIn_bind, hcheck, if_pos rfl, Prog.runIn_bind]; rfl

/-- After a check that does not fire, the tile goes on to the next check. -/
theorem checkedTile_goes_on (hquiet : answer env kernel task s i = false) :
    (checkedTile (channelsOf task s) kernel task (n + 1) i).runIn env
        (checkPoint env kernel task s i) =
      (checkedTile (channelsOf task s) kernel task n (i + 1)).runIn env
        (checkPoint env kernel task s (i + 1)) := by
  have hcheck : ((shouldCancel task.job).runIn env (checkPoint env kernel task s i)).1 = false :=
    hquiet
  rw [checkedTile, Prog.runIn_bind, hcheck, if_neg (by simp), Prog.runIn_bind]
  rfl

theorem checkedTile_ends (hquiet : answer env kernel task s i = false) :
    (checkedTile (channelsOf task s) kernel task 0 i).runIn env (checkPoint env kernel task s i) =
      (.ok true, afterCheck env kernel task s i) := by
  have hcheck : ((shouldCancel task.job).runIn env (checkPoint env kernel task s i)).1 = false :=
    hquiet
  rw [checkedTile, Prog.runIn_bind, hcheck, if_neg (by simp)]
  rfl

variable (env kernel task s n i) in
/-- The tile from a check on, when the checks before the given one do not fire. -/
theorem checkedTile_quiet {k : ℕ} (hk : k ≤ n)
    (hquiet : ∀ j < k, answer env kernel task s (i + j) = false) :
    (checkedTile (channelsOf task s) kernel task n i).runIn env (checkPoint env kernel task s i) =
      (checkedTile (channelsOf task s) kernel task (n - k) (i + k)).runIn env
        (checkPoint env kernel task s (i + k)) := by
  induction k with
  | zero => rfl
  | succ k ih =>
    have hn : n - k = n - (k + 1) + 1 := by omega
    rw [ih (by omega) fun j hj => hquiet j (by omega), hn,
      checkedTile_goes_on (hquiet k (Nat.lt_succ_self k))]
    rfl

end

end

/-! ## What is written -/

theorem sample_of_view {s s' : EngineState S} (h : tileView task s' = tileView task s)
    {c f : Int} (hf : InTile task f) :
    (s'.render.jobs.job task.job).samples.sample c f =
      (s.render.jobs.job task.job).samples.sample c f := by
  simp only [tileView, Prod.mk.injEq] at h
  have hsample := congrFun (congrFun h.2.2.2.2 c) f
  rwa [if_pos hf, if_pos hf, Option.some.injEq] at hsample

/-- The given samples of the tile are written, and the others are as before. -/
structure Written (kernel : RenderKernel S) (task : RenderTask) (s₀ : EngineState S)
    (done : Int → Int → Prop) (s : EngineState S) : Prop where
  chunk : (s.render.jobs.job task.job).chunk = (s₀.render.jobs.job task.job).chunk
  version : (s.render.jobs.job task.job).version = (s₀.render.jobs.job task.job).version
  channelCount : channelsOf task s = channelsOf task s₀
  content : ∀ c f, InTile task f → done c f → SampleContent kernel (s.render.jobs.job task.job) c f
  rest : ∀ c f, InTile task f → ¬done c f → (s.render.jobs.job task.job).samples.sample c f =
    (s₀.render.jobs.job task.job).samples.sample c f

namespace Written

variable {s₀ s s' : EngineState S} {done done' : Int → Int → Prop}

theorem nothing (task : RenderTask) (s : EngineState S) :
    Written kernel task s (fun _ _ => False) s :=
  ⟨rfl, rfl, rfl, fun _ _ _ hd => hd.elim, fun _ _ _ _ => rfl⟩

theorem of_view (h : Written kernel task s₀ done s) (hv : tileView task s' = tileView task s) :
    Written kernel task s₀ done s' := by
  have hview := hv
  simp only [tileView, Prod.mk.injEq] at hview
  obtain ⟨hchunk, hversion, hchannels, -, -⟩ := hview
  refine ⟨hchunk.trans h.chunk, hversion.trans h.version, hchannels.trans h.channelCount,
    fun c f hf hd => ?_, fun c f hf hd => (sample_of_view hv hf).trans (h.rest c f hf hd)⟩
  have hcontent := h.content c f hf hd
  unfold SampleContent at *
  rw [sample_of_view hv hf, hcontent, hchunk, hversion]

theorem of_iff (h : Written kernel task s₀ done s)
    (hiff : ∀ c f, InTile task f → (done' c f ↔ done c f)) : Written kernel task s₀ done' s :=
  { h with
    content := fun c f hf hd => h.content c f hf ((hiff c f hf).mp hd)
    rest := fun c f hf hd => h.rest c f hf fun hd' => hd ((hiff c f hf).mpr hd') }

/-- One sample more is written. -/
theorem write (h : Written kernel task s₀ done s) (c f : Int) :
    Written kernel task s₀ (fun c' f' => done c' f' ∨ c' = c ∧ f' = f)
      ((renderSample kernel task.job c f).run s).2 := by
  have hjob : ((renderSample kernel task.job c f).run s).2.render.jobs.job task.job =
      { s.render.jobs.job task.job with
        samples := (s.render.jobs.job task.job).samples.set c f
          (kernel c ((s.render.jobs.job task.job).chunk * chunkFrames + f)
            (s.render.jobs.job task.job).version) } := by
    simp only [renderSample, Prog.run_modify, JobTable.setSample_job, if_true]
  refine ⟨by rw [hjob]; exact h.chunk, by rw [hjob]; exact h.version,
    by rw [channelsOf, hjob]; exact h.channelCount, fun c' f' hf hd => ?_, fun c' f' hf hd => ?_⟩
  · rw [SampleContent, hjob]
    by_cases heq : c' = c ∧ f' = f
    · obtain ⟨rfl, rfl⟩ := heq
      exact AudioBuffer.set_sample_self ..
    · refine (AudioBuffer.set_sample_of_ne _ _ (by tauto)).trans ?_
      exact h.content c' f' hf (hd.resolve_right heq)
  · rw [hjob]
    refine (AudioBuffer.set_sample_of_ne _ _ (by tauto)).trans (h.rest c' f' hf fun hd' => ?_)
    exact hd (.inl hd')

end Written

section

variable {env : ℕ → EngineState S → EngineState S} {s₀ : EngineState S}
  {done : Int → Int → Prop} {t : EngineState S × ℕ}

theorem renderSample_runIn (henv : ∀ n s, tileView task (env n s) = tileView task s)
    (h : Written kernel task s₀ done t.1) (c f : Int) :
    Written kernel task s₀ (fun c' f' => done c' f' ∨ c' = c ∧ f' = f)
      ((renderSample kernel task.job c f).runIn env t).2.1 :=
  (h.of_view (henv t.2 t.1)).write c f

theorem renderRow_runIn (henv : ∀ n s, tileView task (env n s) = tileView task s)
    (h : Written kernel task s₀ done t.1) (channels : List Int) (f : Int) :
    Written kernel task s₀ (fun c' f' => done c' f' ∨ c' ∈ channels ∧ f' = f)
      ((Prog.forEach (fun channel => renderSample kernel task.job channel f) channels).runIn
        env t).2.1 := by
  induction channels generalizing done t with
  | nil => exact h.of_iff fun c' f' _ => by simp
  | cons c channels ih =>
    refine (ih (renderSample_runIn henv h c f)).of_iff fun c' f' _ => ?_
    rw [List.mem_cons]
    tauto

theorem renderRows_runIn (henv : ∀ n s, tileView task (env n s) = tileView task s)
    (h : Written kernel task s₀ done t.1) (channelCount : Int) (frames : List Int) :
    Written kernel task s₀ (fun c' f' => done c' f' ∨ c' ∈ intRange 0 channelCount ∧ f' ∈ frames)
      ((renderRows channelCount kernel task.job frames).runIn env t).2.1 := by
  induction frames generalizing done t with
  | nil => exact h.of_iff fun c' f' _ => by simp
  | cons f frames ih =>
    have hrow := renderRow_runIn henv h (intRange 0 channelCount) f
    have hrest := ih hrow
    have hsplit : (renderRows channelCount kernel task.job (f :: frames)).runIn env t =
        (renderRows channelCount kernel task.job frames).runIn env
          ((Prog.forEach (fun channel => renderSample kernel task.job channel f)
            (intRange 0 channelCount)).runIn env t).2 := Prog.runIn_bind _ _ _
    rw [hsplit]
    refine hrest.of_iff fun c' f' _ => ?_
    rw [List.mem_cons]
    tauto

theorem shouldCancel_tileView (task : RenderTask) :
    (shouldCancel task.job : Prog (EngineState S) Bool).Preserves (tileView task) :=
  Prog.preserves_read_bind fun _ => Prog.preserves_ite (Prog.preserves_pure _) <|
    Prog.preserves_read_bind fun _ => Prog.preserves_ite (Prog.preserves_pure _)
      (Prog.preserves_read _)

theorem cancelJob_tileView (task : RenderTask) :
    (cancelJob task.job : Prog (EngineState S) Unit).Preserves (tileView task) :=
  Prog.preserves_modify fun s => by simp only [tileView, JobTable.cancel_job]

/-- The frames of a tile that are written before its `i`-th check. -/
def framesBefore (i : ℕ) : Int := cancellationCheckFrames * (i - 1 : ℕ)

/-- The samples of the first frames of the tile. -/
def FirstFrames (task : RenderTask) (s : EngineState S) (frames : Int) (c f : Int) : Prop :=
  c ∈ intRange 0 (channelsOf task s) ∧ f < task.tileIndex * tileFrames + frames

theorem checkPoint_written (henv : ∀ n s, tileView task (env n s) = tileView task s)
    (s : EngineState S) (i : ℕ) :
    Written kernel task s (FirstFrames task s (framesBefore i))
      (checkPoint env kernel task s i).1 := by
  induction i with
  | zero =>
    refine ((Written.nothing task s).of_view (henv 0 s)).of_iff fun c f hf => ?_
    simp only [FirstFrames, framesBefore, Nat.zero_sub, Nat.cast_zero, mul_zero, add_zero, iff_false,
      not_and, not_lt]
    exact fun _ => hf.1
  | succ i ih =>
    have hcheck := ih.of_view ((shouldCancel_tileView task).runIn henv
      (checkPoint env kernel task s i))
    cases i with
    | zero => exact hcheck
    | succ i =>
      refine (renderRows_runIn henv hcheck (channelsOf task s) _).of_iff fun c f hf => ?_
      simp only [FirstFrames, framesBefore, mem_intRange, checkedFrame, Nat.add_sub_cancel]
      unfold cancellationCheckFrames
      have := hf.1
      push_cast
      omega

end

/-! ## One tile -/

/-- What a run of `renderTile` in an environment returns and leaves. -/
abbrev tileRun (cfg : Config) (kernel : RenderKernel S) (task : RenderTask)
    (env : ℕ → EngineState S → EngineState S) (s : EngineState S) :
    Except String Bool × EngineState S × ℕ :=
  (Renderer.renderTile cfg kernel {} task.job task.tileIndex).runIn env (s, 0)

/-- The answers of the checks decide the run of a tile. -/
structure TileRun (cfg : Config) (kernel : RenderKernel S) (task : RenderTask)
    (env : ℕ → EngineState S → EngineState S) (s : EngineState S) : Prop where
  returns_true : (tileRun cfg kernel task env s).1 = .ok true ↔
    ∀ i < tileChecks, answer env kernel task s i = false
  /-- The whole tile is rendered. -/
  rendered : (tileRun cfg kernel task env s).1 = .ok true →
    Written kernel task s (FirstFrames task s tileFrames) (tileRun cfg kernel task env s).2.1
  returns_false : (tileRun cfg kernel task env s).1 = .ok false ↔
    ∃ i < tileChecks, answer env kernel task s i = true
  /-- The job is cancelled, and the frames before the first check that fires are rendered. -/
  cancelled : ∀ i < tileChecks, (∀ j < i, answer env kernel task s j = false) →
    answer env kernel task s i = true →
      ((tileRun cfg kernel task env s).2.1.render.jobs.job task.job).cancelled = true ∧
        Written kernel task s (FirstFrames task s (framesBefore i))
          (tileRun cfg kernel task env s).2.1

section

variable {cfg : Config} {env : ℕ → EngineState S → EngineState S} {s : EngineState S}

theorem tileRun_fires (h : Renderable cfg task s)
    (henv : ∀ n s, tileView task (env n s) = tileView task s) {i : ℕ} (hi : i < tileChecks)
    (hquiet : ∀ j < i, answer env kernel task s j = false)
    (hfires : answer env kernel task s i = true) :
    tileRun cfg kernel task env s =
      (.ok false, ((cancelJob task.job).runIn env (afterCheck env kernel task s i)).2) := by
  have hstart := checkedTile_quiet kernel task env s (tileChecks - 1) 0
    (show i ≤ tileChecks - 1 by omega) fun j hj => by rw [Nat.zero_add]; exact hquiet j hj
  rw [Nat.zero_add] at hstart
  rw [tileRun, renderTile_runIn h henv]
  exact hstart.trans (checkedTile_fires hfires)

theorem tileRun_quiet (h : Renderable cfg task s)
    (henv : ∀ n s, tileView task (env n s) = tileView task s)
    (hquiet : ∀ i < tileChecks, answer env kernel task s i = false) :
    tileRun cfg kernel task env s =
      (.ok true, afterCheck env kernel task s (tileChecks - 1)) := by
  have hchecks : 0 < tileChecks := Nat.succ_pos _
  have hstart := checkedTile_quiet kernel task env s (tileChecks - 1) 0
    le_rfl fun j hj => by rw [Nat.zero_add]; exact hquiet j (by omega)
  rw [Nat.zero_add, Nat.sub_self] at hstart
  rw [tileRun, renderTile_runIn h henv]
  exact hstart.trans (checkedTile_ends (hquiet _ (by omega)))

variable (kernel) in
theorem tileRun_cases (h : Renderable cfg task s)
    (henv : ∀ n s, tileView task (env n s) = tileView task s) :
    ((∀ i < tileChecks, answer env kernel task s i = false) ∧
      (tileRun cfg kernel task env s).1 = .ok true) ∨
    (∃ i < tileChecks, answer env kernel task s i = true) ∧
      (tileRun cfg kernel task env s).1 = .ok false := by
  by_cases hquiet : ∀ i < tileChecks, answer env kernel task s i = false
  · exact .inl ⟨hquiet, congrArg Prod.fst (tileRun_quiet h henv hquiet)⟩
  · simp only [not_forall, Bool.not_eq_false] at hquiet
    obtain ⟨hlt, hfires⟩ := Nat.find_spec hquiet
    refine .inr ⟨⟨_, hlt, hfires⟩, congrArg Prod.fst (tileRun_fires h henv hlt (fun j hj => ?_) hfires)⟩
    have hmin := Nat.find_min hquiet hj
    rw [← Bool.not_eq_true]
    exact fun hyes => hmin ⟨by omega, hyes⟩

/-- **One tile.** The answers of the checks decide what `renderTile` returns and writes. -/
theorem renderTile_tileRun (h : Renderable cfg task s)
    (henv : ∀ n s, tileView task (env n s) = tileView task s) :
    TileRun cfg kernel task env s := by
  have hafter : ∀ i, Written kernel task s (FirstFrames task s (framesBefore i))
      (afterCheck env kernel task s i).1 := fun i =>
    (checkPoint_written henv s i).of_view ((shouldCancel_tileView task).runIn henv _)
  refine ⟨⟨fun htrue => ?_, fun hquiet => ?_⟩, fun htrue => ?_, ⟨fun hfalse => ?_, fun hfires => ?_⟩,
    fun i hi hquiet hfires => ?_⟩
  · rcases tileRun_cases kernel h henv with ⟨hquiet, -⟩ | ⟨-, hfalse⟩
    · exact hquiet
    · rw [htrue] at hfalse
      cases hfalse
  · exact congrArg Prod.fst (tileRun_quiet h henv hquiet)
  · rcases tileRun_cases kernel h henv with ⟨hquiet, -⟩ | ⟨-, hfalse⟩
    · rw [tileRun_quiet h henv hquiet]
      exact hafter (tileChecks - 1)
    · rw [htrue] at hfalse
      cases hfalse
  · rcases tileRun_cases kernel h henv with ⟨-, htrue⟩ | ⟨hfires, -⟩
    · rw [hfalse] at htrue
      cases htrue
    · exact hfires
  · rcases tileRun_cases kernel h henv with ⟨hquiet, -⟩ | ⟨-, hfalse⟩
    · obtain ⟨i, hi, hyes⟩ := hfires
      rw [hquiet i hi] at hyes
      cases hyes
    · exact hfalse
  · rw [tileRun_fires h henv hi hquiet hfires]
    refine ⟨?_, (hafter i).of_view ((cancelJob_tileView task).runIn henv _)⟩
    simp only [cancelJob, Prog.runIn_modify, JobTable.cancel_job, decide_true, Bool.or_true]

end

end Anasa
