import Anasa.Scheduling.AdmissionSteps

/-!
# The numbers of tiles in every run

Every call of the scheduler thread keeps `AdmissionInv`. While the loop runs it admits and submits
tiles; only a start leaves the tiles of the last session behind, and only a stop drops tiles under
the Fifo policy.
-/

namespace Anasa

open Concurrency Contract PriorityQueue Scheduler

variable {S : Type} {cfg : Config} {C : Contract (EngineState S)}

/-- The numbers of the tiles on top of a contract. -/
abbrev admissionContract (cfg : Config) (C : Contract (EngineState S)) : Contract (EngineState S) :=
  C.owning admissionsOf (AdmissionInv cfg) fun _ _ => True

/-! ## Triples -/

theorem triple_admissionFrame {α : Type} {p : Prog (EngineState S) α}
    (hp : p.Preserves admissionsOf) (P : Admissions → Prop) :
    (admissionContract cfg C).Triple (fun s => P (admissionsOf s)) p
      fun _ s => P (admissionsOf s) :=
  triple_owned_frame (fun _ => trivial) hp P

/-- An access that leaves the admissions alone. -/
theorem triple_admissionStill {f : EngineState S → EngineState S} {P : Admissions → Prop}
    (hf : ∀ s, admissionsOf (f s) = admissionsOf s) :
    (admissionContract cfg C).Triple (fun s => P (admissionsOf s)) (.modify f)
      fun _ s => P (admissionsOf s) :=
  triple_admissionFrame (Prog.preserves_modify hf) P

theorem triple_admissionModify {f : EngineState S → EngineState S} (P Q : Admissions → Prop)
    (h : ∀ s, AdmissionInv cfg (admissionsOf s) → P (admissionsOf s) →
      AdmissionInv cfg (admissionsOf (f s)) ∧ Q (admissionsOf (f s))) :
    (admissionContract cfg C).Triple (fun s => P (admissionsOf s)) (.modify f)
      fun _ s => Q (admissionsOf s) :=
  triple_owned_modify P Q fun s _ hi hP => ⟨trivial, h s hi hP⟩

theorem triple_admissionRead {α : Type} {r : EngineState S → α} (P : Admissions → Prop)
    (Q : α → Admissions → Prop) (h : ∀ s, P (admissionsOf s) → Q (r s) (admissionsOf s)) :
    (admissionContract cfg C).Triple (fun s => P (admissionsOf s)) (.read r)
      fun a s => Q a (admissionsOf s) :=
  triple_owned_read (fun _ => trivial) P Q fun s _ _ hP => h s hP

theorem triple_admissionPure {α : Type} {a : α} {P : Admissions → Prop}
    {Q : α → Admissions → Prop} (h : ∀ v, P v → Q a v) :
    (admissionContract cfg C).Triple (fun s => P (admissionsOf s))
      (pure a : Prog (EngineState S) α) fun a s => Q a (admissionsOf s) :=
  triple_owned_pure fun v _ => h v

/-- In a step of the loop. -/
structure LoopingAt (phase : LoopPhase) (a : Admissions) : Prop where
  started : a.started = true
  phase : a.phase = phase
  looping : a.Looping

/-- In a step of the loop, with tiles set aside. -/
structure SetAside (phase : LoopPhase) (buffer : List PendingRenderTile) (a : Admissions) : Prop
    extends LoopingAt phase a where
  buffer : a.buffer = buffer

section

variable (hC : C.Stable)

include hC

theorem triple_admissionFrame_bind {α β : Type} {p : Prog (EngineState S) α}
    {g : α → Prog (EngineState S) β} {P : Admissions → Prop} {Q : β → EngineState S → Prop}
    (hp : p.Preserves admissionsOf)
    (hg : ∀ a, (admissionContract cfg C).Triple (fun s => P (admissionsOf s)) (g a) Q) :
    (admissionContract cfg C).Triple (fun s => P (admissionsOf s)) (p >>= g) Q :=
  (triple_admissionFrame hp P).bind hC.owning hg

omit hC

/-- The loop goes on with another phase. -/
theorem enter_admissions (phase phase' : LoopPhase) :
    (admissionContract cfg C).Triple (fun s => LoopingAt phase (admissionsOf s))
      (SchedulerLoop.enter phase') fun _ _ => True :=
  triple_admissionModify (LoopingAt phase) (fun _ => True) fun _ hi h =>
    ⟨{ hi with inOrder := fun hpolicy _ => hi.inOrder hpolicy h.looping }, trivial⟩

/-! ## Scheduling -/

theorem refreshPendingClassifications_admissions (hpolicy : cfg.scheduler.policyType = .priority)
    (frame : Int) (P : Admissions → Prop)
    (hP : ∀ a pending buffer, P a → P { a with pending, buffer }) :
    (admissionContract cfg C).Triple (fun s => P (admissionsOf s))
      (refreshPendingClassifications cfg frame) fun _ s => P (admissionsOf s) := by
  refine triple_admissionModify P P fun s hi h => ⟨?_, hP _ _ _ h⟩
  have hfifo : cfg.scheduler.policyType ≠ .fifo := by simp [hpolicy]
  refine {
    waiting := fun t ht => ?_
    submitted := hi.submitted
    firstJob_le := hi.firstJob_le
    next := hi.next
    prefix_of_admitted := fun h => absurd h hfifo
    inOrder := fun h => absurd h hfifo }
  have ht' : t ∈ pushAllPending cfg (s.render.pendingTiles.map (reclassify cfg s frame)) [] ++ [] := ht
  rw [List.append_nil, (pushAllPending_perm _ _ _).mem_iff, List.append_nil] at ht'
  obtain ⟨t₀, ht₀, rfl⟩ := List.mem_map.mp ht'
  exact (hi.waiting t₀ (List.mem_append_left _ ht₀)).of_key (reclassify_key s frame t₀).1

include hC

theorem updateClassifications_admissions (frame : Int) (P : Admissions → Prop)
    (hP : ∀ a pending buffer, P a → P { a with pending, buffer }) :
    (admissionContract cfg C).Triple (fun s => P (admissionsOf s))
      (updateClassifications cfg frame) fun _ s => P (admissionsOf s) := by
  have hrecord : (admissionContract cfg C).Triple (fun s => P (admissionsOf s))
      (.modify fun s => { s with
        sched := { s.sched with
          pendingClassificationsDirty := false
          lastClassifiedPlayheadChunk := playheadChunk cfg frame
          lastClassifiedUrgentChunkEnd := urgentChunkEnd cfg frame }
        schedulingHistory.playheadFrame := frame }) fun _ s => P (admissionsOf s) := by
    exact triple_admissionStill fun _ => rfl
  refine Triple.bind hC.owning (triple_admissionRead P
    (fun changed a => P a ∧ (changed = true → cfg.scheduler.policyType = .priority))
    fun s h => ⟨h, fun hc => ?_⟩) fun changed => triple_ite (fun hc => ?_) fun _ => ?_
  · simp only [Bool.and_eq_true, decide_eq_true_eq] at hc
    exact hc.1
  · refine Triple.of_pre (φ := cfg.scheduler.policyType = .priority) (fun s h => h.2 hc)
      fun hpolicy => ?_
    exact ((refreshPendingClassifications_admissions hpolicy frame P hP).conseq (fun s _ h => h.1)
      fun _ _ _ h => h).bind hC.owning fun _ => hrecord
  · exact hrecord.conseq (fun s _ h => h.1) fun _ _ _ h => h

omit hC

theorem retireTile_admissionsOf (tile : PendingRenderTile) (s : EngineState S) :
    admissionsOf { s with render := retireTile cfg tile s.render } =
      { admissionsOf s with buffer := (admissionsOf s).buffer.tail } :=
  congrArg Plan.admissions (retireTile_planOf tile s)

include hC

theorem retireOrKeep_admissions (hfifo : cfg.scheduler.policyType ≠ .fifo)
    {phase : LoopPhase} (tile : PendingRenderTile) (rest : List PendingRenderTile) :
    (admissionContract cfg C).Triple (fun s => SetAside phase (tile :: rest) (admissionsOf s))
      (retireOrKeep cfg tile) fun _ s => SetAside phase rest (admissionsOf s) := by
  refine triple_admissionFrame_bind hC (Prog.preserves_read _) fun _ =>
    triple_ite (fun _ => ?_) fun _ => ?_
  · refine triple_admissionModify (SetAside phase (tile :: rest)) (SetAside phase rest)
      fun s hi h => ?_
    rw [retireTile_admissionsOf, h.buffer]
    refine ⟨hi.move (fun t ht => ?_) fun hp => absurd hp hfifo, ⟨h.started, h.phase, h.looping⟩, rfl⟩
    rw [h.buffer]
    exact ((List.sublist_cons_self tile rest).append_left _).subset ht
  · refine triple_admissionModify (SetAside phase (tile :: rest)) (SetAside phase rest)
      fun s hi h => ?_
    have hbuffer : s.render.reclassificationBuffer = tile :: rest := h.buffer
    have hkeep : admissionsOf { s with render := keepTile cfg tile s.render } =
        { admissionsOf s with
          pending := pushPending cfg tile (admissionsOf s).pending
          buffer := rest } := by
      simp only [admissionsOf, Plan.admissions, planOf, keepTile, hbuffer, List.tail_cons]
      rfl
    rw [hkeep]
    refine ⟨hi.move (fun t ht => ?_) fun hp => absurd hp hfifo, ⟨h.started, h.phase, h.looping⟩, rfl⟩
    rw [h.buffer]
    exact (PendingInv.keep_perm tile).subset ht

theorem makeRoomForUrgentChunk_admissions (hfifo : cfg.scheduler.policyType ≠ .fifo)
    (phase : LoopPhase) :
    (admissionContract cfg C).Triple (fun s => LoopingAt phase (admissionsOf s))
      (makeRoomForUrgentChunk cfg) fun _ s => LoopingAt phase (admissionsOf s) := by
  have hloop : ∀ tiles, (admissionContract cfg C).Triple
      (fun s => SetAside phase tiles (admissionsOf s)) (.forEach (retireOrKeep cfg) tiles)
      fun _ s => LoopingAt phase (admissionsOf s) := by
    intro tiles
    induction tiles with
    | nil => exact triple_admissionPure (P := SetAside phase []) fun _ h => h.toLoopingAt
    | cons tile rest ih => exact (retireOrKeep_admissions hC hfifo tile rest).bind hC.owning fun _ => ih
  have haside : (admissionContract cfg C).Triple (fun s => LoopingAt phase (admissionsOf s))
      (.atomically fun s =>
        (s.render.pendingTiles, { s with render := { s.render with
          reclassificationBuffer := s.render.pendingTiles
          pendingTiles := [] } }))
      fun tiles s => SetAside phase tiles (admissionsOf s) := by
    refine triple_owned_atomically _ (SetAside phase) fun s _ hi h => ⟨trivial, ?_, ?_⟩
    · exact hi.move (fun t ht => List.mem_append_left _ ht) fun hp => absurd hp hfifo
    · exact ⟨⟨h.started, h.phase, h.looping⟩, rfl⟩
  exact haside.bind hC.owning fun tiles => triple_admissionFrame_bind hC
    (plan_admissions (worker_planOf (countRetained_workerView tiles))) fun _ => triple_admissionFrame_bind hC
      (plan_admissions (worker_planOf (evictJobs_workerView cfg _ _ _))) fun _ => hloop tiles

variable [Zero S]

theorem scheduleChunk_admissions (chunk frame : Int) (phase : LoopPhase) :
    (admissionContract cfg C).Triple (fun s => LoopingAt phase (admissionsOf s))
      (scheduleChunk cfg chunk frame) fun _ s => LoopingAt phase (admissionsOf s) := by
  have hreturn : (admissionContract cfg C).Triple (fun s => LoopingAt phase (admissionsOf s))
      (pure () : Prog (EngineState S) Unit) fun _ s => LoopingAt phase (admissionsOf s) :=
    triple_admissionPure fun _ h => h
  have hframe : ∀ {α β : Type} {r : EngineState S → α} {g : α → Prog (EngineState S) β} {Q},
      (∀ a, (admissionContract cfg C).Triple (fun s => LoopingAt phase (admissionsOf s)) (g a) Q) →
      (admissionContract cfg C).Triple (fun s => LoopingAt phase (admissionsOf s))
        (.read r >>= g) Q := fun hg => triple_admissionFrame_bind hC (Prog.preserves_read _) hg
  refine triple_ite (fun _ => hreturn) fun hchunk => hframe fun _ => triple_ite
    (fun _ => hreturn) fun _ => hframe fun version => hframe fun _ => triple_ite
      (fun _ => hreturn) fun _ => hframe fun result => ?_
  rcases result with e | classification
  · exact hreturn
  have hroom : (admissionContract cfg C).Triple (fun s => LoopingAt phase (admissionsOf s))
      (makeRoomIfUrgent cfg classification.priority)
      fun _ s => LoopingAt phase (admissionsOf s) := by
    refine triple_ite (fun hurgent => hframe fun _ => triple_ite (fun _ => ?_) fun _ => hreturn)
      fun _ => hreturn
    exact makeRoomForUrgentChunk_admissions hC (by simp [hurgent.1]) phase
  refine hroom.bind hC.owning fun _ => hframe fun _ => triple_ite (fun _ => ?_) fun _ => hreturn
  refine triple_admissionModify _ (LoopingAt phase) fun s hi h => ?_
  have hnew : admissionsOf { s with render := admitChunk cfg chunk version classification s.render } =
      { admissionsOf s with
        pending := pushAllPending cfg
          (newTiles (admissionsOf s).made classification (admissionsOf s).nextTileSequence)
          (admissionsOf s).pending
        nextTileSequence := (admissionsOf s).nextTileSequence + tilesPerChunk
        made := (admissionsOf s).made + 1 } :=
    congrArg Plan.admissions (admitChunk_planOf (by omega) version classification s)
  rw [hnew]
  exact ⟨hi.admitTiles h.started h.looping classification, h.started, h.phase, h.looping⟩

theorem scheduleRenderJobs_admissions (phase : LoopPhase) :
    (admissionContract cfg C).Triple (fun s => LoopingAt phase (admissionsOf s))
      (scheduleRenderJobs cfg) fun _ s => LoopingAt phase (admissionsOf s) := by
  have hchunks : ∀ frame chunks, (admissionContract cfg C).Triple
      (fun s => LoopingAt phase (admissionsOf s))
      (.forEach (fun chunk => scheduleChunk cfg chunk frame) chunks)
      fun _ s => LoopingAt phase (admissionsOf s) := fun frame chunks =>
    triple_forEach hC.owning (kept_owned (LoopingAt phase)) fun chunk _ =>
      scheduleChunk_admissions hC chunk frame phase
  have hscan : ∀ frame n, (admissionContract cfg C).Triple
      (fun s => LoopingAt phase (admissionsOf s)) (scanTimeline cfg frame n)
      fun _ s => LoopingAt phase (admissionsOf s) := by
    intro frame n
    induction n with
    | zero => exact triple_admissionPure fun _ h => h
    | succ n ih =>
      refine triple_admissionFrame_bind hC (Prog.preserves_read _) fun ⟨_, chunk⟩ => triple_ite
        (fun _ => triple_admissionPure fun _ h => h) fun _ => ?_
      exact (scheduleChunk_admissions hC chunk frame phase).bind hC.owning fun _ =>
        triple_admissionFrame_bind hC (Prog.preserves_modify fun _ => rfl) fun _ => ih
  refine triple_admissionFrame_bind hC
    (publishing_admissions (PlaybackProtocol.currentFrame_publishingView cfg)) fun frame => ?_
  refine (updateClassifications_admissions hC frame (LoopingAt phase)
    fun a _ _ h => ⟨h.started, h.phase, h.looping⟩).bind hC.owning fun _ => ?_
  exact triple_admissionFrame_bind hC (Prog.preserves_read _) fun _ =>
    (hchunks frame _).bind hC.owning fun _ => triple_admissionFrame_bind hC
      (Prog.preserves_read _) fun _ => (hchunks frame _).bind hC.owning fun _ => hscan frame _

omit [Zero S]

/-! ## Dispatch -/

theorem dispatchLoop_admissions (refuses : ℕ → Bool) (phase : LoopPhase) (n : ℕ) :
    (admissionContract cfg C).Triple (fun s => LoopingAt phase (admissionsOf s))
      (dispatchLoop cfg refuses n) fun _ s => LoopingAt phase (admissionsOf s) := by
  have hend : ∀ reason, (admissionContract cfg C).Triple
      (fun s => LoopingAt phase (admissionsOf s)) (endDispatch reason)
      fun _ s => LoopingAt phase (admissionsOf s) := fun reason =>
    triple_admissionStill fun _ => rfl
  induction n with
  | zero => exact hend _
  | succ n ih =>
    refine Triple.bind hC.owning (triple_admissionRead (LoopingAt phase)
      (fun top a => LoopingAt phase a ∧ a.pending.head? = top.1) fun s h => ⟨h, rfl⟩) fun top => ?_
    rcases top with ⟨- | tile, queued⟩
    · exact (hend _).conseq (fun s _ h => h.1) fun _ _ _ h => h
    · refine triple_ite (fun _ => ?_) fun _ => (hend _).conseq (fun s _ h => h.1) fun _ _ _ h => h
      refine triple_admissionFrame_bind hC
        (P := fun a => LoopingAt phase a ∧ a.pending.head? = some tile) (Prog.preserves_read _)
        fun _ => triple_ite (fun _ => (hend _).conseq (fun s _ h => h.1) fun _ _ _ h => h) fun _ => ?_
      refine Triple.bind hC.owning (triple_owned_atomically
        (fun a => LoopingAt phase a ∧ a.pending.head? = some tile) (fun _ => LoopingAt phase)
        fun s _ hi h => ⟨trivial, ?_⟩) fun _ => triple_ite (fun _ => ih) fun _ => hend _
      dsimp only
      cases hsubmitted : (submitTile cfg (refuses n) tile s.render).1 with
      | false =>
        have hsame := congrArg Plan.admissions (afterRefusal_planOf (refuses n) tile s hsubmitted)
        rw [admissionsOf, hsame]
        exact ⟨hi, h.1⟩
      | true =>
        have hafter := congrArg Plan.admissions (afterSubmit_planOf (refuses n) tile s hsubmitted)
        rw [admissionsOf, hafter]
        exact ⟨hi.submit h.1.looping h.2, h.1.started, h.1.phase, h.1.looping⟩

theorem dispatchPendingTiles_admissions (refuses : ℕ → Bool) (phase : LoopPhase) :
    (admissionContract cfg C).Triple (fun s => LoopingAt phase (admissionsOf s))
      (dispatchPendingTiles cfg refuses) fun _ s => LoopingAt phase (admissionsOf s) :=
  triple_admissionFrame_bind hC (Prog.preserves_read _) fun n =>
    dispatchLoop_admissions hC refuses phase n

/-! ## The loop -/

theorem enterUnlessShutdown_admissions (phase phase' : LoopPhase) :
    (admissionContract cfg C).Triple (fun s => LoopingAt phase (admissionsOf s))
      (SchedulerLoop.enterUnlessShutdown phase') fun _ _ => True :=
  triple_admissionFrame_bind hC (publishing_admissions shutdownRequested_publishingView) fun _ =>
    triple_ite (fun _ => enter_admissions phase _) fun _ => enter_admissions phase _

theorem readCommands_admissions (phase : LoopPhase) :
    (admissionContract cfg C).Triple (fun s => LoopingAt phase (admissionsOf s))
      (SchedulerLoop.readCommands cfg) fun _ _ => True := by
  refine triple_admissionFrame_bind hC (Prog.preserves_read _) fun front => ?_
  cases front with
  | none => exact enter_admissions phase _
  | some command =>
    refine triple_admissionFrame_bind hC (Prog.preserves_modify fun _ => rfl) fun _ =>
      triple_admissionFrame_bind hC (handleCommand_admissions cfg command) fun _ =>
        triple_admissionFrame_bind hC (publishing_admissions shutdownRequested_publishingView)
          fun _ => triple_ite (fun _ => enter_admissions phase _) fun _ => ?_
    exact triple_admissionPure (Q := fun _ _ => True) fun _ _ => trivial

theorem collectFinishedJobs_admissions (phase : LoopPhase) :
    (admissionContract cfg C).Triple (fun s => LoopingAt phase (admissionsOf s))
      (SchedulerLoop.collectFinishedJobs cfg) fun _ _ => True := by
  refine triple_admissionFrame_bind hC
    (Prog.preserves_atomically fun s => collectOne_admissionsOf cfg s) fun _ =>
      triple_ite (fun _ => enter_admissions phase _) fun _ => ?_
  exact triple_admissionPure (Q := fun _ _ => True) fun _ _ => trivial

theorem step_admissions [Zero S] (refuses : ℕ → Bool) (phase : LoopPhase) :
    (admissionContract cfg C).Triple
      (fun s => (admissionsOf s).started = true ∧ (admissionsOf s).phase = phase)
      (SchedulerLoop.step cfg refuses phase) fun _ _ => True := by
  have hlooping : phase ≠ .returned → phase ≠ .stopped → ∀ s : EngineState S,
      (admissionContract cfg C).inv s →
      (admissionsOf s).started = true ∧ (admissionsOf s).phase = phase →
        LoopingAt phase (admissionsOf s) := fun hr hs s _ h =>
    ⟨h.1, h.2, by rw [h.2]; exact hr, by rw [h.2]; exact hs⟩
  have hdone : (admissionContract cfg C).Triple
      (fun s => (admissionsOf s).started = true ∧ (admissionsOf s).phase = phase)
      (pure () : Prog (EngineState S) Unit) fun _ _ => True :=
    triple_admissionPure (P := fun a => a.started = true ∧ a.phase = phase)
      (Q := fun _ _ => True) fun _ _ => trivial
  cases phase with
  | stopped => exact hdone
  | condition =>
    exact (enterUnlessShutdown_admissions hC _ _).conseq (hlooping nofun nofun) fun _ _ _ h => h
  | readCommands =>
    exact (readCommands_admissions hC _).conseq (hlooping nofun nofun) fun _ _ _ h => h
  | breakCheck =>
    exact (enterUnlessShutdown_admissions hC _ _).conseq (hlooping nofun nofun) fun _ _ _ h => h
  | collectFinishedJobs =>
    exact (collectFinishedJobs_admissions hC _).conseq (hlooping nofun nofun) fun _ _ _ h => h
  | feedAudioQueue =>
    exact (triple_admissionFrame_bind hC (feedAudioQueue_admissions cfg) fun _ =>
      enter_admissions _ _).conseq (hlooping nofun nofun) fun _ _ _ h => h
  | updateBackgroundAdmission =>
    exact (triple_admissionFrame_bind hC (updateBackgroundAdmission_admissions cfg) fun _ =>
      enter_admissions _ _).conseq (hlooping nofun nofun) fun _ _ _ h => h
  | scheduleRenderJobs =>
    exact ((scheduleRenderJobs_admissions hC _).bind hC.owning fun _ =>
      enter_admissions _ _).conseq (hlooping nofun nofun) fun _ _ _ h => h
  | dispatchPendingTiles =>
    exact ((dispatchPendingTiles_admissions hC refuses _).bind hC.owning fun _ =>
      enter_admissions _ _).conseq (hlooping nofun nofun) fun _ _ _ h => h
  | pause =>
    exact (triple_admissionFrame_bind hC (Prog.preserves_atomically fun _ => rfl) fun _ =>
      enter_admissions _ _).conseq (hlooping nofun nofun) fun _ _ _ h => h
  | returned => exact hdone

theorem schedulerLoop_admissions [Zero S] (refuses : ℕ → Bool) :
    (admissionContract cfg C).Triple (fun _ : EngineState S => True)
      (SchedulerLoop.run cfg refuses) fun _ _ => True := by
  refine Triple.bind hC.owning (triple_admissionRead (fun _ => True)
    (fun started a => a.started = started) fun _ _ => rfl) fun started =>
      triple_ite (fun hs => ?_) fun _ => ?_
  · refine Triple.bind hC.owning (triple_admissionRead (fun a => a.started = started)
      (fun phase a => a.started = started ∧ a.phase = phase) fun _ h => ⟨h, rfl⟩) fun phase => ?_
    exact (step_admissions hC refuses phase).conseq (fun _ _ h => ⟨h.1.trans hs, h.2⟩)
      fun _ _ _ h => h
  · exact triple_admissionPure (P := fun a => a.started = started) (Q := fun _ _ => True)
      fun _ _ => trivial

/-! ## Starting -/

/-- There is no thread, and no tile is left. -/
structure NoneLeft (a : Admissions) : Prop where
  started : a.started = false
  pending : a.pending = []
  buffer : a.buffer = []

/-- The scheduler is started, and its tiles are in order. -/
def OpenedInOrder (cfg : Config) (a : Admissions) : Prop :=
  a.started = true → cfg.scheduler.policyType = .fifo → a.InOrder

theorem schedulerStart_admissions :
    (admissionContract cfg C).Triple (fun s => NoneLeft (admissionsOf s))
      (Scheduler.start cfg) fun _ s => OpenedInOrder cfg (admissionsOf s) := by
  refine triple_admissionFrame_bind hC (Prog.preserves_read _) fun _ => triple_ite (fun _ => ?_)
    fun _ => triple_admissionPure (P := NoneLeft) (Q := fun _ => OpenedInOrder cfg)
      fun a h hs => by simp [h.started] at hs
  refine triple_admissionFrame_bind hC (Prog.preserves_modify fun _ => rfl) fun _ =>
    triple_admissionFrame_bind hC (Prog.preserves_modify fun _ => rfl) fun _ =>
      triple_admissionFrame_bind hC (Prog.preserves_modify fun _ => rfl) fun _ =>
        triple_admissionFrame_bind hC
          (publishing_admissions (PlaybackProtocol.currentFrame_publishingView cfg)) fun frame =>
            triple_admissionFrame_bind hC
              (publishing_admissions (TimelineAudioPublisher.reset_publishingView frame)) fun _ => ?_
  refine triple_admissionModify NoneLeft (OpenedInOrder cfg) fun s hi h => ?_
  obtain ⟨hinv, horder⟩ := hi.start h.started h.pending h.buffer
  exact ⟨hinv, fun _ _ => horder⟩

theorem engineStart_admissions :
    (admissionContract cfg C).Triple (fun s => NoneLeft (admissionsOf s))
      (Engine.start cfg) fun _ s => OpenedInOrder cfg (admissionsOf s) := by
  refine triple_admissionFrame_bind hC (Prog.preserves_read _) fun _ => triple_ite (fun _ => ?_)
    fun _ => triple_admissionPure (P := NoneLeft) (Q := fun _ => OpenedInOrder cfg)
      fun a h hs => by simp [h.started] at hs
  refine triple_admissionFrame_bind hC (Prog.preserves_modify fun _ => rfl) fun _ =>
    triple_admissionFrame_bind hC (Prog.preserves_modify fun _ => rfl) fun _ =>
      triple_admissionFrame_bind hC (Prog.preserves_modify fun _ => rfl) fun _ =>
        triple_admissionFrame_bind hC (plan_admissions (worker_planOf Executor.start_workerView))
          fun _ => ?_
  exact (schedulerStart_admissions hC).bind hC.owning fun _ =>
    triple_admissionStill fun _ => rfl

/-- What `startLoop` knows when it is called. -/
structure NoneStarted (a : Admissions) : Prop where
  started : a.started = true ↔ a.phase ≠ .stopped
  none_left : a.started = false → NoneLeft a

theorem startLoop_admissions {start : Prog (EngineState S) Unit}
    (hstart : (admissionContract cfg C).Triple (fun s => NoneLeft (admissionsOf s)) start
      fun _ s => OpenedInOrder cfg (admissionsOf s)) :
    (admissionContract cfg C).Triple (fun s => NoneStarted (admissionsOf s))
      (Owner.startLoop start) fun _ _ => True := by
  refine Triple.bind hC.owning (triple_admissionRead NoneStarted
    (fun none a => none = true → NoneLeft a) fun s h hn => ?_) fun none =>
      triple_ite (fun hn => ?_) fun _ => ?_
  · rw [decide_eq_true_eq] at hn
    have hphase : (admissionsOf s).phase = .stopped := by
      show s.loop.phase = _
      rw [hn]
    refine h.none_left (Bool.eq_false_iff.mpr fun hs => h.started.mp hs hphase)
  · refine (hstart.conseq (fun s _ h => h hn) fun _ _ _ h => h).bind hC.owning fun _ => ?_
    refine Triple.bind hC.owning (triple_admissionRead (OpenedInOrder cfg)
      (fun started a => OpenedInOrder cfg a ∧ a.started = started) fun s h => ⟨h, rfl⟩)
      fun started => triple_ite (fun hs => ?_) fun _ => ?_
    · exact triple_admissionModify (fun a => OpenedInOrder cfg a ∧ a.started = started)
        (fun _ => True) fun s hi h =>
          ⟨{ hi with inOrder := fun hpolicy _ => h.1 (h.2.trans hs) hpolicy }, trivial⟩
    · exact triple_admissionPure (P := fun a => OpenedInOrder cfg a ∧ a.started = started)
        (Q := fun _ _ => True) fun _ _ => trivial
  · exact triple_admissionPure (P := fun a => none = true → NoneLeft a)
      (Q := fun _ _ => True) fun _ _ => trivial

/-! ## Stopping -/

omit hC in
theorem dropPendingTile_admissionsOf (s : EngineState S) :
    admissionsOf { s with render := dropPendingTile s.render } =
      { admissionsOf s with pending := (admissionsOf s).pending.tail } :=
  congrArg Plan.admissions (dropPendingTile_planOf s)

theorem dropPendingTiles_admissions (n : ℕ) :
    (admissionContract cfg C).Triple (fun s => (admissionsOf s).Ended)
      (dropPendingTiles n) fun _ s => (admissionsOf s).Ended := by
  induction n with
  | zero => exact triple_admissionPure fun _ h => h
  | succ n ih =>
    refine Triple.bind hC.owning ?_ fun _ => ih
    refine triple_admissionModify Admissions.Ended Admissions.Ended fun s hi h => ?_
    rw [dropPendingTile_admissionsOf]
    exact ⟨hi.move (fun t ht => ((List.tail_sublist _).append_right _).subset ht) fun _ => h, h⟩

theorem schedulerStop_admissions :
    (admissionContract cfg C).Triple (fun s => (admissionsOf s).Ended)
      (Scheduler.stop cfg) fun _ s => (admissionsOf s).Ended := by
  refine triple_admissionFrame_bind hC (Prog.preserves_read _) fun _ => triple_ite (fun _ => ?_)
    fun _ => triple_admissionPure fun _ h => h
  refine triple_admissionFrame_bind hC (Prog.preserves_modify fun _ => rfl) fun _ =>
    triple_admissionFrame_bind hC (Prog.preserves_read _) fun n =>
      (dropPendingTiles_admissions hC n).bind hC.owning fun _ =>
        triple_admissionFrame_bind hC (Prog.preserves_read _) fun commands =>
          triple_admissionFrame_bind hC (plan_admissions (dropCommands_planOf commands)) fun _ =>
            triple_admissionFrame_bind hC ?_ fun _ =>
              triple_admissionFrame_bind hC (Prog.preserves_modify fun _ => rfl) fun _ => ?_
  · refine Prog.preserves_forEach fun chunk _ => Prog.preserves_modify fun s => ?_
    have horigins := ActiveRenderJobs.cancelAndReset_origins chunk s.render
    rw [ActiveRenderJobs.cancelAndReset_eq]
    simp only [admissionsOf, Plan.admissions, planOf, Plan.made, horigins]
  · exact triple_admissionModify Admissions.Ended Admissions.Ended fun s hi h =>
      ⟨{ hi with next := rfl, inOrder := fun _ hl => absurd hl h }, h⟩

theorem finishStop_admissions :
    (admissionContract cfg C).Triple (fun _ : EngineState S => True) (Owner.finishStop cfg)
      fun _ _ => True := by
  have hdone : ∀ P : Admissions → Prop, (admissionContract cfg C).Triple
      (fun s => P (admissionsOf s)) (pure () : Prog (EngineState S) Unit) fun _ _ => True :=
    fun P => triple_admissionPure (Q := fun _ _ => True) fun _ _ => trivial
  refine Triple.bind hC.owning (triple_admissionRead (fun _ => True)
    (fun (loop : LoopState) a => a.phase = loop.phase) fun _ _ => rfl) fun loop =>
      triple_ite (fun hended => ?_) fun _ => hdone fun a => a.phase = loop.phase
  have hcleanUp : ∀ scope, (admissionContract cfg C).Triple (fun s => (admissionsOf s).Ended)
      (Owner.cleanUp cfg scope) fun _ s => (admissionsOf s).Ended := by
    intro scope
    cases scope with
    | scheduler => exact schedulerStop_admissions hC
    | engine =>
      exact (schedulerStop_admissions hC).bind hC.owning fun _ => triple_admissionFrame_bind hC
        (plan_admissions (worker_planOf Executor.stop_workerView)) fun _ =>
          triple_admissionStill fun _ => rfl
  rcases loop.stopping with - | scope
  · exact hdone fun a => a.phase = loop.phase
  · refine ((hcleanUp scope).conseq (fun s _ h hl => ?_) fun _ _ _ h => h).bind hC.owning fun _ => ?_
    · rcases hended with hs | hr
      · exact hl.2 (h.trans hs)
      · exact hl.1 (h.trans hr)
    · exact triple_admissionModify Admissions.Ended (fun _ => True) fun s hi _ =>
        ⟨{ hi with inOrder := fun _ hl => absurd rfl hl.2 }, trivial⟩

end

/-! ## Every run -/

variable [Zero S]

theorem AdmissionInv.init (cfg : Config) :
    AdmissionInv cfg (admissionsOf (.init cfg : EngineState S)) where
  waiting _ ht := absurd ht List.not_mem_nil
  submitted _ ht := absurd ht List.not_mem_nil
  firstJob_le := le_rfl
  next := rfl
  prefix_of_admitted _ := rfl
  inOrder _ hl := absurd rfl hl.2

/-- The numbers of the tiles, on top of the plan. -/
def admissionLayer (hcfg : cfg.Valid) (kernel : RenderKernel S) :
    Layer (planLayer hcfg kernel).discipline :=
  Layer.owned (planLayer hcfg kernel).discipline .scheduler admissionsOf (AdmissionInv cfg)
    (fun _ => True) (fun _ _ => True)
    (fun call hother => by
      cases call with
      | schedulerLoop refuses => exact absurd rfl hother
      | schedulerStart => exact absurd rfl hother
      | engineStart => exact absurd rfl hother
      | executorStart => exact absurd rfl hother
      | executorStop => exact absurd rfl hother
      | requestStop scope => exact plan_admissions (requestStop_planOf scope)
      | finishStop => exact absurd rfl hother
      | post command => exact plan_admissions (post_planOf command)
      | processBlock output =>
        exact plan_admissions (callback_planOf (recordedCallback_callbackView cfg output))
      | workerLoop worker faults =>
        exact plan_admissions (worker_planOf (Executor.workerLoop_workerView cfg kernel faults worker)))
    fun call hcall s hi hidle hinv _ => by
      have hstable := (planLayer hcfg kernel).discipline.contract_stable .scheduler
      have hplan : PlanIdle cfg (planOf s) := hidle.2 rfl
      have hbefore : NoneStarted (admissionsOf s) := by
        refine ⟨hplan.started, fun hs => ⟨hs, ?_, hplan.buffer⟩⟩
        exact (SchedulerIdle.stopped (show SchedulerIdle s from hidle.1) hs).1
      cases call with
      | schedulerLoop refuses => exact schedulerLoop_admissions hstable refuses s hinv trivial
      | schedulerStart =>
        exact startLoop_admissions hstable (schedulerStart_admissions hstable) s hinv hbefore
      | engineStart =>
        exact startLoop_admissions hstable (engineStart_admissions hstable) s hinv hbefore
      | executorStart =>
        exact triple_admissionFrame (plan_admissions (worker_planOf Executor.start_workerView))
          (fun _ => True) s hinv trivial
      | executorStop =>
        exact triple_admissionFrame (plan_admissions (worker_planOf Executor.stop_workerView))
          (fun _ => True) s hinv trivial
      | requestStop scope => cases hcall
      | finishStop => exact finishStop_admissions hstable s hinv trivial
      | post command => cases hcall
      | processBlock output => cases hcall
      | workerLoop worker faults => cases hcall

/-- **The numbers of the tiles.** Every run of sessions keeps them. -/
theorem sessionRun_admissionInv (cfg : AcceptedConfig) (kernel : RenderKernel S)
    (moves : List (SessionMove S)) :
    AdmissionInv cfg (admissionsOf (sessionRun cfg kernel moves).state) := by
  have hinit : (admissionLayer cfg.valid kernel).discipline.Sound
      (Pool.idle (EngineState.init cfg.toConfig)) :=
    ⟨⟨⟨RenderInv.init cfg kernel, PlanInv.init cfg⟩, AdmissionInv.init cfg.toConfig⟩, fun i =>
      ⟨⟨renderIdle_init cfg.toConfig i, fun _ => planIdle_init cfg.toConfig⟩, fun _ => trivial⟩⟩
  exact (hinit.run moves).inv.2

end Anasa
