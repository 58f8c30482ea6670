import Anasa.Rendering.Guarantees
import Anasa.Scheduling.ControlLifecycle

/-!
# The boundary of a session

When `stop` has returned, nothing of the session is left that the next one would take for its own:
no command, no pending tile, no registered job, and no permission to play. What workers still
finish is the completion of a job that is not registered, which `collectFinishedJobs` drops.
-/

namespace Anasa

open Concurrency Contract

variable {S : Type} {cfg : Config} {kernel : RenderKernel S} {C : Contract (EngineState S)}

/-! ## The owner -/

/-- The owner is not stopping, and has seen whether the scheduler is started. -/
def NotStopping (seen : Bool) (s : EngineState S) : Prop :=
  s.loop.stopping = none ∧ (seen = true → s.sched.started = true)

theorem NotStopping.kept (seen : Bool) :
    (controlContract C .client).Kept (NotStopping (S := S) seen) := by
  intro s s' h hr _
  obtain ⟨hstopping, hstarted⟩ := hr.1 h.1
  exact ⟨hstopping, fun hs => hstarted (h.2 hs)⟩

/-- What the owner does is what the scheduler relies on; nobody else relies on anything. -/
theorem guar_owner {s s' : EngineState S} (h : OwnerMoves (controlOf s) (controlOf s'))
    (hplaying : s'.shared.playing = true → s.shared.playing = true) :
    ∀ j, j ≠ ThreadId.client → controlRely j s s' := by
  intro j hj
  cases j with
  | scheduler => exact ⟨h, hplaying⟩
  | client => exact absurd rfl hj
  | audio => trivial
  | worker n => trivial

theorem triple_ownerStill {α : Type} {p : Prog (EngineState S) α} (hp : p.Preserves playControl)
    (seen : Bool) :
    (controlContract C .client).Triple (NotStopping seen) p fun _ => NotStopping seen := by
  refine triple_still hp (NotStopping.kept seen) fun s s' h hs => ?_
  have hcontrol := (Prod.mk.inj h).1
  have hloop : s'.loop = s.loop := congrArg Control.loop hcontrol
  have hstarted : s'.sched.started = s.sched.started := congrArg Control.started hcontrol
  unfold NotStopping
  rw [hloop, hstarted]
  exact hs

theorem readStopping_control :
    (controlContract C .client).Triple (fun _ : EngineState S => True)
      (.read (·.loop.stopping.isNone)) fun none s => none = true → NotStopping false s := by
  refine triple_read_rely (fun s j _ => controlRely_refl j s) kept_true (fun none s s' h hr hi hn =>
    NotStopping.kept false s s' (h hn) hr hi) fun _ s _ _ _ hn => ?_
  exact ⟨Option.isNone_iff_eq_none.mp hn, fun hf => by cases hf⟩

theorem readStarted_control :
    (controlContract C .client).Triple (NotStopping (S := S) false) (.read (·.sched.started))
      NotStopping :=
  triple_read_rely (fun s j _ => controlRely_refl j s) (NotStopping.kept false) NotStopping.kept
    fun _ _ _ _ h => ⟨h.1, id⟩

/-- A command that is queued is accepted. -/
theorem acceptCommand_control {s : EngineState S} (command : Command)
    (hi : ControlInv (controlOf s) s.shared.playing) (hs : NotStopping true s) :
    OwnerMoves (controlOf s) (controlOf { s with
        commandQueue := (s.commandQueue.pushWith fun _ => command).2
        schedulingHistory := if (s.commandQueue.pushWith fun _ => command).1 then
          s.schedulingHistory.accept command else s.schedulingHistory }) ∧
      ControlInv (controlOf { s with
        commandQueue := (s.commandQueue.pushWith fun _ => command).2
        schedulingHistory := if (s.commandQueue.pushWith fun _ => command).1 then
          s.schedulingHistory.accept command else s.schedulingHistory }) s.shared.playing := by
  rcases hfree : s.commandQueue.free with - | ⟨slot, rest⟩
  · rw [BoundedFifo.pushWith_of_full hfree]
    exact ⟨.refl _, hi⟩
  · rw [BoundedFifo.pushWith_of_free hfree]
    refine ⟨⟨⟨[command], rfl, rfl, fun _ => ⟨hs.2 rfl, hs.1⟩⟩, rfl, fun _ => rfl, rfl, id, rfl⟩, ?_⟩
    refine ⟨?_, hi.stop_last, hi.paused⟩
    exact hi.handled_prefix.trans (List.prefix_append _ _)

section

variable (hC : C.Stable)

include hC

theorem post_control (command : Command) :
    (controlContract C .client).Triple (fun _ : EngineState S => True) (Owner.post command)
      fun _ _ => True := by
  have hstable := controlContract_stable hC .client
  have hdone : ∀ seen (b : Bool), (controlContract C .client).Triple (NotStopping (S := S) seen)
      (pure b) fun _ _ => True := fun seen b => triple_pure kept_true fun _ _ _ => trivial
  refine readStopping_control.bind hstable fun none => triple_ite (fun hn => ?_) fun _ =>
    triple_pure kept_true fun _ _ _ => trivial
  refine Triple.bind hstable (Q := fun _ _ => True) ?_ fun _ =>
    triple_pure kept_true fun _ _ _ => trivial
  refine (readStarted_control.bind hstable fun started => ?_).conseq (fun s _ h => h hn)
    fun _ _ _ h => h
  refine triple_ite (fun _ => hdone _ _) fun hstarted => ?_
  have hseen : started = true := by simpa using hstarted
  rw [hseen]
  refine (triple_ownerStill (Prog.preserves_read _) true).bind hstable fun _ =>
    triple_ite (fun _ => hdone _ _) fun _ =>
      (triple_ownerStill (Prog.preserves_read _) true).bind hstable fun _ =>
        triple_ite (fun _ => hdone _ _) fun _ => ?_
  refine triple_atomically_rely (NotStopping.kept true) (fun _ => kept_true) fun _ s _ hi hs => ?_
  obtain ⟨hmoves, hinv⟩ := acceptCommand_control command hi hs
  exact ⟨guar_owner hmoves id, hinv, trivial⟩

theorem requestStop_control (scope : StopScope) :
    (controlContract C .client).Triple (fun _ : EngineState S => True) (Owner.requestStop scope)
      fun _ _ => True := by
  have hstable := controlContract_stable hC .client
  have hdone : ∀ seen, (controlContract C .client).Triple (NotStopping (S := S) seen)
      (pure ()) fun _ _ => True := fun seen => triple_pure kept_true fun _ _ _ => trivial
  refine readStopping_control.bind hstable fun none => triple_ite (fun hn => ?_) fun _ =>
    triple_pure kept_true fun _ _ _ => trivial
  refine Triple.conseq (P := NotStopping false) (Q := fun _ _ => True) ?_ (fun s _ h => h hn)
    fun _ _ _ h => h
  cases scope with
  | scheduler =>
    refine readStarted_control.bind hstable fun started => triple_ite (fun _ => ?_)
      fun _ => hdone _
    refine triple_modify_rely (NotStopping.kept started) kept_true fun _ s _ hi hs => ?_
    refine ⟨guar_owner ?_ id, { hi with }, trivial⟩
    exact { OwnerMoves.refl (controlOf s) with
      stopping := fun hn => absurd hs.1 hn
      stopRequested := fun _ => rfl }
  | engine =>
    refine (triple_ownerStill (Prog.preserves_read _) false).bind hstable fun _ =>
      triple_ite (fun _ => ?_) fun _ => hdone false
    refine Triple.bind (Q := fun _ => NotStopping false) hstable ?_ fun _ => ?_
    · refine triple_ownerStill (Prog.preserves_modify ?_) false
      exact fun _ => rfl
    refine Triple.bind (Q := fun _ => NotStopping false) hstable (triple_modify_rely
      (NotStopping.kept false) (NotStopping.kept false) fun _ s _ hi hs => ?_) fun _ => ?_
    · exact ⟨guar_owner (.refl _) fun hp => absurd hp Bool.false_ne_true,
        { hi with paused := fun _ => rfl }, hs⟩
    · refine triple_modify_rely (NotStopping.kept false) kept_true fun _ s _ hi hs => ?_
      refine ⟨guar_owner ?_ id, { hi with }, trivial⟩
      exact { OwnerMoves.refl (controlOf s) with
        stopping := fun hn => absurd hs.1 hn
        stopRequested := fun hr => Bool.or_eq_true_iff.mpr (.inl hr) }

end

/-! ## Every run -/

/-- What a thread knows of the control between two calls. -/
def controlIdle (i : ThreadId) (s : EngineState S) : Prop :=
  i = .scheduler → ControlIdle (controlOf s)

theorem controlIdle_stable {i : ThreadId} {s s' : EngineState S} (h : controlIdle i s)
    (hr : controlRely i s s') : controlIdle i s' := by
  intro hi
  subst hi
  exact ControlIdle.kept _ _ (h rfl) hr.1

/-- A call that leaves the control alone. -/
theorem outsideCall_control {i : ThreadId} {p : Prog (EngineState S) Unit}
    (hp : p.Preserves playControl) :
    (controlContract C i).Triple (controlIdle i) p fun _ => controlIdle i := by
  refine triple_still hp (fun s s' h hr _ => controlIdle_stable h hr.1) fun s s' h hs hi => ?_
  rw [(Prod.mk.inj h).1]
  exact hs hi

variable [Zero S]

/-- Every call keeps the control. -/
theorem sessionCall_control (hC : C.Stable) (call : SessionCall S) :
    (controlContract C call.thread).Triple (fun s => controlIdle call.thread s ∧
        (call.thread = .scheduler → s.loop.phase = .stopped → s.sched.started = false))
      (call.program cfg kernel) fun _ => controlIdle call.thread := by
  have hscheduler : ∀ {p : Prog (EngineState S) Unit},
      (controlContract C .scheduler).Triple (fun s : EngineState S => ControlIdle (controlOf s)) p
        (fun _ s => ControlIdle (controlOf s)) →
      (controlContract C .scheduler).Triple (fun s : EngineState S => controlIdle .scheduler s ∧
        (ThreadId.scheduler = .scheduler → s.loop.phase = .stopped → s.sched.started = false)) p
        fun _ => controlIdle .scheduler :=
    fun h => h.conseq (fun s _ hs => hs.1 rfl) fun _ s _ hs _ => hs
  have hstart : ∀ {p : Prog (EngineState S) Unit},
      (controlContract C .scheduler).Triple (fun s : EngineState S => BeforeStart (controlOf s)) p
        (fun _ s => ControlIdle (controlOf s)) →
      (controlContract C .scheduler).Triple (fun s : EngineState S => controlIdle .scheduler s ∧
        (ThreadId.scheduler = .scheduler → s.loop.phase = .stopped → s.sched.started = false)) p
        fun _ => controlIdle .scheduler :=
    fun h => h.conseq (fun s _ hs => ⟨hs.1 rfl, hs.2 rfl⟩) fun _ s _ hs _ => hs
  have hclient : ∀ {p : Prog (EngineState S) Unit},
      (controlContract C .client).Triple (fun _ : EngineState S => True) p (fun _ _ => True) →
      (controlContract C .client).Triple (fun s : EngineState S => controlIdle .client s ∧
        (ThreadId.client = .scheduler → s.loop.phase = .stopped → s.sched.started = false)) p
        fun _ => controlIdle .client :=
    fun h => h.conseq (fun _ _ _ => trivial) fun _ _ _ _ hi => by cases hi
  cases call with
  | schedulerLoop refuses => exact hscheduler (schedulerLoop_control hC refuses)
  | schedulerStart => exact hstart (startLoop_control hC (schedulerStart_control hC))
  | engineStart => exact hstart (startLoop_control hC (engineStart_control hC))
  | executorStart =>
    exact (outsideCall_control (worker_playControl Executor.start_workerView)).conseq
      (fun _ _ hs => hs.1) fun _ _ _ hs => hs
  | executorStop =>
    exact (outsideCall_control (worker_playControl Executor.stop_workerView)).conseq
      (fun _ _ hs => hs.1) fun _ _ _ hs => hs
  | requestStop scope => exact hclient (requestStop_control hC scope)
  | finishStop => exact hscheduler (finishStop_control hC)
  | post command => exact hclient (post_control hC command)
  | processBlock output =>
    exact (outsideCall_control (callback_playControl
      (recordedCallback_callbackView cfg output))).conseq (fun _ _ hs => hs.1) fun _ _ _ hs => hs
  | workerLoop worker faults =>
    exact (outsideCall_control (worker_playControl
      (Executor.workerLoop_workerView cfg kernel faults worker))).conseq (fun _ _ hs => hs.1)
      fun _ _ _ hs => hs

theorem controlCall_safe (hcfg : cfg.Valid) (call : SessionCall S) (s : EngineState S)
    (hidle : (planLayer hcfg kernel).discipline.idle call.thread s)
    (hi : ControlInv (controlOf s) s.shared.playing) (h : controlIdle call.thread s) :
    (controlContract ((planLayer hcfg kernel).discipline.contract call.thread) call.thread).Safe
      (fun _ => controlIdle call.thread) (call.program cfg kernel) s := by
  refine sessionCall_control (Discipline.contract_stable _ _) call s hi ⟨h, fun hcall hphase => ?_⟩
  have hplan : PlanIdle cfg (planOf s) := hidle.2 hcall
  have hstarted := hplan.started
  rw [show (planOf s).phase = .stopped from hphase] at hstarted
  show (planOf s).sched.started = false
  simpa using hstarted

/-- The control in the machine of sessions. -/
def controlLayer (hcfg : cfg.Valid) (kernel : RenderKernel S) :
    Layer (planLayer hcfg kernel).discipline where
  inv s := ControlInv (controlOf s) s.shared.playing
  rely := controlRely
  guar i s s' := ∀ j, j ≠ i → controlRely j s s'
  idle := controlIdle
  rely_refl := controlRely_refl
  rely_trans := controlRely_trans
  compatible hij _ _ hg := hg _ hij.symm
  idle_stable h hr _ := controlIdle_stable h hr
  call_safe call s _ hidle hi h := controlCall_safe hcfg call s hidle hi h

theorem ControlInv.init (cfg : Config) :
    ControlInv (controlOf (.init cfg : EngineState S)) false where
  handled_prefix := List.nil_prefix
  stop_last _ hmem := absurd hmem List.not_mem_nil
  paused _ := rfl

theorem controlIdle_init (cfg : Config) (i : ThreadId) :
    controlIdle i (.init cfg : EngineState S) := by
  intro _
  constructor
  · intro hs
    cases hs
  · intro _
    rfl

variable (cfg : AcceptedConfig) (kernel : RenderKernel S) (moves : List (SessionMove S))

/-- **The control.** Every run of sessions keeps the control. -/
theorem controlLayer_sound :
    (controlLayer cfg.valid kernel).discipline.Sound (sessionRun cfg kernel moves) := by
  have hinit : (controlLayer cfg.valid kernel).discipline.Sound
      (Pool.idle (EngineState.init cfg.toConfig)) :=
    ⟨⟨⟨RenderInv.init cfg kernel, PlanInv.init cfg⟩, ControlInv.init cfg.toConfig⟩, fun i =>
      ⟨⟨renderIdle_init cfg.toConfig i, fun _ => planIdle_init cfg.toConfig⟩,
        controlIdle_init cfg.toConfig i⟩⟩
  exact hinit.run moves

/-! ## Stopping and starting again -/

/-- All tiles of the job are accounted for, and its completion was queued and collected. -/
structure JobFinished (r : RenderState S) (j : JobId) : Prop where
  tilesRemaining : (r.jobs.job j).tilesRemaining = 0
  published : j ∈ r.history.published.map Prod.fst
  not_publishing : j ∉ r.executor.publishing.map Prod.snd
  collected : j ∉ r.executor.completedJobs

/-- What `stop` leaves behind when it has returned. -/
structure StopReturned (s : EngineState S) : Prop where
  playing : s.shared.playing = false
  pendingTiles : s.render.pendingTiles = []
  commands : s.commandQueue.contents = []
  jobs : ∀ j, s.schedulingHistory.firstJob ≤ j → j < s.render.jobs.made →
    (s.render.jobs.job j).cancelled = true ∨ JobFinished s.render j

/-- What holds of a session in every state. -/
structure SessionKept (cfg : Config) (s : EngineState S) : Prop where
  /-- Commands are handled once each, in the order in which they were accepted. -/
  handled_prefix : s.schedulingHistory.handled <+: s.schedulingHistory.accepted
  /-- Nothing is handled after a Stop. -/
  stop_last : ∀ before command after, s.schedulingHistory.handled = before ++ command :: after →
    command.type = .stop → after = []
  /-- The completion of a job of an earlier session is dropped. -/
  earlier_dropped : ∀ j rest, s.render.executor.completedJobs = j :: rest →
    j < s.schedulingHistory.firstJob →
    (Scheduler.collectOne cfg s.render).2.cacheEntries = s.render.cacheEntries ∧
      (Scheduler.collectOne cfg s.render).2.activeJobs = s.render.activeJobs

/-- The session is kept in the state, and if `stop` has returned it left nothing behind. -/
structure CleanBoundary (cfg : Config) (p : Pool ThreadId (EngineState S)) : Prop where
  kept : SessionKept cfg p.state
  returned : p.thread .scheduler = none → p.state.loop.phase = .stopped → StopReturned p.state

omit [Zero S] in
theorem ControlInv.after_stop {c : Control} {playing : Bool} (h : ControlInv c playing)
    {before after : List Command} {command : Command}
    (hhandled : c.handled = before ++ command :: after) (hstop : command.type = .stop) :
    after = [] := by
  by_contra hne
  refine h.stop_last command ?_ hstop
  rw [hhandled, List.dropLast_append_of_ne_nil (List.cons_ne_nil _ _),
    List.dropLast_cons_of_ne_nil hne]
  exact List.mem_append_right _ List.mem_cons_self

omit [Zero S] in
theorem RenderInv.cancelled_or_finished {cfg : Config} {kernel : RenderKernel S}
    {r : RenderState S} (h : RenderInv cfg kernel r) (hactive : ∀ c, r.activeJobs c = none)
    {j : JobId} (hj : j < r.jobs.made) : (r.jobs.job j).cancelled = true ∨ JobFinished r j := by
  rcases hcancelled : (r.jobs.job j).cancelled with - | -
  · right
    have hidle : ¬ Busy r.jobs r.executor.publishing r.executor.completedJobs j := by
      intro hbusy
      have hregistered := h.registration.busy_registered j hj hcancelled hbusy
      rw [hactive] at hregistered
      cases hregistered
    unfold Busy at hidle
    simp only [not_or, ne_eq, not_not] at hidle
    obtain ⟨hzero, hpublishing, hcollected⟩ := hidle
    refine ⟨hzero, ?_, hpublishing, hcollected⟩
    have hfinished := (h.completion.mem_iff j).mpr ⟨hj, hzero⟩
    rcases List.mem_append.mp hfinished with hmem | hretired
    · exact (List.mem_append.mp hmem).resolve_left hpublishing
    · rw [h.completion.retired_cancelled j hretired] at hcancelled
      cases hcancelled
  · exact .inl rfl

/-- **Session boundary.** However `stop` meets the loop, the workers and a posted Stop: commands
are handled in order and none after a Stop, completions of earlier sessions are dropped, and when
`stop` has returned nothing plays, nothing is queued and no job is left to finish. -/
theorem sessionRun_cleanBoundary :
    CleanBoundary cfg.toConfig (sessionRun cfg.toConfig kernel moves) := by
  have hsound := controlLayer_sound cfg kernel moves
  obtain ⟨⟨hrender, hplan⟩, hcontrol⟩ := hsound.inv
  refine ⟨⟨hcontrol.handled_prefix, fun before command after => hcontrol.after_stop,
    fun j rest hcompleted hj => ?_⟩, fun hthread hphase => ?_⟩
  · have hne : (sessionRun cfg.toConfig kernel moves).state.render.activeJobs
        ((sessionRun cfg.toConfig kernel moves).state.render.jobs.job j).chunk ≠ some j :=
      fun hregistered => absurd hj (Nat.not_lt.mpr (hplan.registered _ j hregistered))
    rw [Scheduler.collectOne_of_not_registered hcompleted hne]
    exact ⟨rfl, rfl⟩
  · have hidle := hsound.thread .scheduler
    rw [hthread] at hidle
    obtain ⟨⟨hrenderIdle, hplanIdle⟩, hcontrolIdle⟩ := hidle
    have hstarted : (sessionRun cfg.toConfig kernel moves).state.sched.started = false := by
      have hiff := (hplanIdle rfl).started
      rw [show (planOf _).phase = .stopped from hphase] at hiff
      show (planOf (sessionRun cfg.toConfig kernel moves).state).sched.started = false
      simpa using hiff
    obtain ⟨hpending, hactive⟩ := SchedulerIdle.stopped
      (show SchedulerIdle (sessionRun cfg.toConfig kernel moves).state from hrenderIdle) hstarted
    exact ⟨hcontrol.paused (.inr hphase), hpending, (hcontrolIdle rfl).stopped hstarted,
      fun j _ hj => hrender.cancelled_or_finished hactive hj⟩

end Anasa
