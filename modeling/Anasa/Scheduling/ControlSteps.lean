import Anasa.Rendering.Operations
import Anasa.Scheduling.Control

/-!
# The control during a step of the loop

Every step of `schedulerLoop` keeps the control: commands leave the queue in the order in which
they were accepted, nothing is read after a Stop, and the loop pauses playback when it ends.
-/

namespace Anasa

open Concurrency Contract

variable {S : Type} {cfg : Config} {C : Contract (EngineState S)}

/-! ## Triples -/

theorem kept_control {P : Control → Prop} (hP : OwnerKept P) :
    (controlContract C .scheduler).Kept fun s => P (controlOf s) :=
  fun _ _ h hr _ => hP _ _ h hr.1.1

theorem triple_controlStill {α : Type} {p : Prog (EngineState S) α} {P : Control → Prop}
    (hP : OwnerKept P) (hp : p.Preserves playControl) :
    (controlContract C .scheduler).Triple (fun s => P (controlOf s)) p
      fun _ s => P (controlOf s) := by
  refine triple_still hp (kept_control hP) fun s s' h hs => ?_
  rw [(Prod.mk.inj h).1]
  exact hs

/-- While the loop runs, playback may start and stop. -/
theorem triple_controlFrame {α : Type} {p : Prog (EngineState S) α} {P : Control → Prop}
    (hP : OwnerKept P) (hrunning : ∀ c, P c → ¬ c.Ended) (hp : p.Preserves controlOf) :
    (controlContract C .scheduler).Triple (fun s => P (controlOf s)) p
      fun _ s => P (controlOf s) := by
  refine triple_of_preserves hp (kept_control hP) fun s s' h hi hs => ?_
  have hs' : P (controlOf s') := h ▸ hs
  refine ⟨fun j hj => ?_, ?_, hs'⟩
  · cases j with
    | scheduler => exact absurd rfl hj
    | client =>
      have hloop : s'.loop = s.loop := congrArg Control.loop h
      have hstarted : s'.sched.started = s.sched.started := congrArg Control.started h
      intro hn
      rw [hloop, hstarted]
      exact ⟨hn, id⟩
    | audio => trivial
    | worker n => trivial
  · have hi' : ControlInv (controlOf s) s.shared.playing := hi
    exact ⟨h ▸ hi'.handled_prefix, h ▸ hi'.stop_last, fun hended => absurd hended (hrunning _ hs')⟩

/-- An access that keeps what the owner knows: the scheduler stays started until it is stopped. -/
theorem triple_controlModify {f : EngineState S → EngineState S} {P Q : Control → Prop}
    (hP : OwnerKept P) (hQ : OwnerKept Q)
    (h : ∀ s, ControlInv (controlOf s) s.shared.playing → P (controlOf s) →
      (s.loop.stopping = none →
        (f s).loop.stopping = none ∧ (s.sched.started = true → (f s).sched.started = true)) ∧
      ControlInv (controlOf (f s)) (f s).shared.playing ∧ Q (controlOf (f s))) :
    (controlContract C .scheduler).Triple (fun s => P (controlOf s)) (.modify f)
      fun _ s => Q (controlOf s) := by
  refine triple_modify_rely (kept_control hP) (kept_control hQ) fun _ s _ hi hs => ?_
  obtain ⟨hguar, hinv, hpost⟩ := h s hi hs
  refine ⟨fun j hj => ?_, hinv, hpost⟩
  cases j with
  | scheduler => exact absurd rfl hj
  | client => exact hguar
  | audio => trivial
  | worker n => trivial

theorem triple_controlRead {α : Type} {r : EngineState S → α} {P : Control → Prop}
    {Q : α → Control → Prop} (hP : OwnerKept P) (hQ : ∀ a, OwnerKept (Q a))
    (h : ∀ s, P (controlOf s) → Q (r s) (controlOf s)) :
    (controlContract C .scheduler).Triple (fun s => P (controlOf s)) (.read r)
      fun a s => Q a (controlOf s) :=
  triple_read_rely (fun s j _ => controlRely_refl j s) (kept_control hP)
    (fun a => kept_control (hQ a)) fun _ s _ _ hs => h s hs

theorem triple_controlPure {α : Type} {a : α} {P : Control → Prop} {Q : α → Control → Prop}
    (hQ : OwnerKept (Q a)) (h : ∀ c, P c → Q a c) :
    (controlContract C .scheduler).Triple (fun s => P (controlOf s))
      (pure a : Prog (EngineState S) α) fun a s => Q a (controlOf s) :=
  triple_pure (kept_control hQ) fun s _ hs => h (controlOf s) hs

/-! ## The phases -/

theorem Looping.not_ended {phase : LoopPhase} {c : Control} (h : Looping phase c)
    (h₁ : phase ≠ .returned) (h₂ : phase ≠ .stopped) : ¬ c.Ended := by
  rintro (hended | hended)
  · exact h₁ (h.phase_eq.symm.trans hended)
  · exact h₂ (h.phase_eq.symm.trans hended)

/-- The loop goes on with another phase. -/
theorem enter_control {P : Control → Prop} {phase : LoopPhase} (hP : OwnerKept P)
    (h₁ : phase ≠ .returned) (h₂ : phase ≠ .stopped)
    (h : ∀ c, P c → ControlIdle { c with loop.phase := phase }) :
    (controlContract C .scheduler).Triple (fun s => P (controlOf s)) (SchedulerLoop.enter phase)
      fun _ s => ControlIdle (controlOf s) := by
  refine triple_controlModify hP ControlIdle.kept fun s hi hs => ⟨fun hn => ⟨hn, id⟩, ?_, h _ hs⟩
  refine { hi with paused := ?_ }
  rintro (hended | hended)
  · exact absurd hended h₁
  · exact absurd hended h₂

/-- Nothing is handled after a Stop, so a step that reads none leaves any phase. -/
theorem AtStep.enter {phase phase' : LoopPhase} {c : Control} (h : AtStep phase c)
    (hstop : c.StopHandled → StopPhase phase') :
    ControlIdle { c with loop.phase := phase' } := by
  have hstep : AtStep phase' { c with loop.phase := phase' } :=
    ⟨⟨h.started, rfl, h.fifo⟩, h.stop_requested, hstop⟩
  exact hstep.idle

theorem AtStep.not_stopHandled {phase : LoopPhase} {c : Control} (h : AtStep phase c)
    (hphase : ¬ StopPhase phase) : ¬ c.StopHandled := fun hs => hphase (h.stop_phase hs)

section

variable (hC : C.Stable)

include hC

/-- After a Stop the scheduler sees that a shutdown is requested. -/
theorem shutdownRequested_control {P : Control → Prop} (hP : OwnerKept P)
    (hreq : ∀ c, P c → c.StopHandled → c.stopRequested = true) :
    (controlContract C .scheduler).Triple (fun s : EngineState S => P (controlOf s))
      Scheduler.shutdownRequested
      fun requested s => P (controlOf s) ∧ (requested = false → ¬ (controlOf s).StopHandled) := by
  have hkept : ∀ b : Bool, OwnerKept fun c => P c ∧ (b = false → ¬ c.StopHandled) :=
    fun b => hP.and fun c c' h hm hb hs => h hb (hm.stopHandled.mp hs)
  have hread : (controlContract C .scheduler).Triple (fun s : EngineState S => P (controlOf s))
      (.read (·.sched.stopRequested))
      fun b s => P (controlOf s) ∧ (b = false → ¬ (controlOf s).StopHandled) := by
    refine triple_controlRead hP hkept fun s hs => ⟨hs, fun hb hstop => ?_⟩
    have hrequested : s.sched.stopRequested = true := hreq _ hs hstop
    rw [hb] at hrequested
    cases hrequested
  refine hread.bind (controlContract_stable hC _) fun b => triple_ite (fun _ => ?_) fun hb => ?_
  · exact triple_controlPure (P := fun c => P c ∧ (b = false → ¬ c.StopHandled))
      (Q := fun b c => P c ∧ (b = false → ¬ c.StopHandled)) (hkept true)
      fun c h => ⟨h.1, fun hf => by cases hf⟩
  · refine triple_controlRead (hkept b) hkept fun s h => ⟨h.1, fun _ => h.2 ?_⟩
    simpa using hb

theorem enterUnlessShutdown_control {phase phase' : LoopPhase} (h₁ : phase' ≠ .returned)
    (h₂ : phase' ≠ .stopped) :
    (controlContract C .scheduler).Triple (fun s : EngineState S => AtStep phase (controlOf s))
      (SchedulerLoop.enterUnlessShutdown phase') fun _ s => ControlIdle (controlOf s) := by
  have hkept : ∀ b : Bool, OwnerKept fun c => AtStep phase c ∧ (b = false → ¬ c.StopHandled) :=
    fun b => (AtStep.kept phase).and fun c c' h hm hb hs => h hb (hm.stopHandled.mp hs)
  refine (shutdownRequested_control hC (AtStep.kept phase) fun c h => h.stop_requested).bind
    (controlContract_stable hC _) fun requested => triple_ite (fun _ => ?_) fun hr => ?_
  · exact enter_control (hkept requested) (by decide) (by decide) fun c h =>
      h.1.enter fun _ => .inr (.inl rfl)
  · exact enter_control (hkept requested) h₁ h₂ fun c h =>
      h.1.enter fun hs => absurd hs (h.2 (by simpa using hr))

/-! ## Commands -/

/-- A command is handled; only a Stop may be the first one that stops the loop. -/
structure Handling (command : Command) (c : Control) : Prop extends Looping .readCommands c where
  stop : c.StopHandled → command.type = .stop

/-- A command was handled, and a Stop has requested the stop. -/
structure HandledCommand (c : Control) : Prop extends Looping .readCommands c where
  stop_requested : c.StopHandled → c.stopRequested = true

omit hC in
theorem Handling.kept (command : Command) : OwnerKept (Handling command) := fun _ _ h hm =>
  ⟨Looping.kept _ _ _ h.toLooping hm, fun hs => h.stop (hm.stopHandled.mp hs)⟩

omit hC in
theorem HandledCommand.kept : OwnerKept HandledCommand := fun _ _ h hm =>
  ⟨Looping.kept _ _ _ h.toLooping hm,
    fun hs => hm.stopRequested (h.stop_requested (hm.stopHandled.mp hs))⟩

omit hC in
/-- No command but a Stop touches the control. -/
theorem handleCommand_controlOf (cfg : Config) {command : Command} (h : command.type ≠ .stop) :
    (Scheduler.handleCommand cfg command : Prog (EngineState S) Unit).Preserves controlOf := by
  have hdirty : (Scheduler.setClassificationsDirty : Prog (EngineState S) Unit).Preserves
      controlOf := Prog.preserves_modify fun _ => rfl
  unfold Scheduler.handleCommand
  cases htype : command.type with
  | play =>
    exact Prog.preserves_atomically_bind (fun _ => rfl) fun _ =>
      Prog.preserves_ite hdirty (Prog.preserves_pure _)
  | pause =>
    exact Prog.preserves_atomically_bind (fun _ => rfl) fun _ =>
      Prog.preserves_ite hdirty (Prog.preserves_pure _)
  | seek =>
    exact (publishing_controlOf (Scheduler.beginAudioGeneration_publishingView _ _)).bind
      fun _ => hdirty
  | setViewport => exact Prog.preserves_modify fun _ => rfl
  | edit =>
    exact Prog.preserves_modify_bind (fun _ => rfl) fun _ =>
      (playControl_controlOf (Scheduler.invalidateVersions_playControl cfg _ _)).bind fun _ =>
        (playControl_controlOf (PlaybackProtocol.currentFrame_playControl cfg)).bind fun _ =>
          Prog.preserves_read_bind fun _ =>
            (publishing_controlOf (Scheduler.beginAudioGeneration_publishingView _ _)).bind
              fun _ => Prog.preserves_modify fun _ => rfl
  | stop => exact absurd htype h

theorem handleCommand_control (command : Command) :
    (controlContract C .scheduler).Triple (fun s : EngineState S => Handling command (controlOf s))
      (Scheduler.handleCommand cfg command) fun _ s => HandledCommand (controlOf s) := by
  by_cases hstop : command.type = .stop
  · unfold Scheduler.handleCommand
    rw [hstop]
    dsimp only
    refine Triple.bind (controlContract_stable hC _) (triple_controlStill (Handling.kept command)
      (Prog.preserves_modify fun _ => rfl)) fun _ => ?_
    refine triple_controlModify (Handling.kept command) HandledCommand.kept fun s hi h =>
      ⟨fun hn => ⟨hn, id⟩, { hi with }, ?_⟩
    exact ⟨⟨h.started, h.phase_eq, h.fifo⟩, fun _ => rfl⟩
  · refine (triple_controlFrame (Handling.kept command) (fun c h => h.not_ended (by decide)
      (by decide)) (handleCommand_controlOf cfg hstop)).conseq (fun s _ h => h) fun _ s _ h => ?_
    exact ⟨h.toLooping, fun hs => absurd (h.stop hs) hstop⟩

omit hC in
/-- The front command moves from the queue to those handled. -/
theorem popCommand_control {command : Command} {s : EngineState S} {playing : Bool}
    (h : AtStep .readCommands (controlOf s))
    (hfront : s.commandQueue.contents.head? = some command) :
    ControlInv (controlOf { s with
        commandQueue := s.commandQueue.pop
        schedulingHistory := s.schedulingHistory.handle command }) playing ∧
      Handling command (controlOf { s with
        commandQueue := s.commandQueue.pop
        schedulingHistory := s.schedulingHistory.handle command }) := by
  have hnone := h.not_stopHandled (by unfold StopPhase; decide)
  have hcontents : s.commandQueue.contents = command :: s.commandQueue.contents.tail :=
    List.eq_cons_of_mem_head? hfront
  have hfifo : s.schedulingHistory.handled ++ s.commandQueue.contents =
      s.schedulingHistory.accepted := h.fifo
  have hrest : (s.schedulingHistory.handled ++ [command]) ++ s.commandQueue.pop.contents =
      s.schedulingHistory.accepted := by
    rw [BoundedFifo.contents_pop, List.append_assoc, List.singleton_append, ← hcontents, hfifo]
  refine ⟨⟨⟨_, hrest⟩, ?_, ?_⟩, ⟨⟨h.started, h.phase_eq, hrest⟩, ?_⟩⟩
  · show ∀ earlier ∈ (s.schedulingHistory.handled ++ [command]).dropLast, _
    rw [List.dropLast_concat]
    exact fun earlier hmem htype => hnone ⟨earlier, hmem, htype⟩
  · exact fun hended => absurd hended (h.not_ended (by decide) (by decide))
  · rintro ⟨stop, hmem, htype⟩
    rcases List.mem_append.mp hmem with hmem | hmem
    · exact absurd ⟨stop, hmem, htype⟩ hnone
    · rw [← List.mem_singleton.mp hmem]
      exact htype

theorem readCommands_control :
    (controlContract C .scheduler).Triple
      (fun s : EngineState S => AtStep .readCommands (controlOf s))
      (SchedulerLoop.readCommands cfg) fun _ s => ControlIdle (controlOf s) := by
  have hstable := controlContract_stable hC .scheduler
  have hread : OwnerKept (AtStep .readCommands) := AtStep.kept _
  have hfront : ∀ front : Option Command, OwnerKept fun c => AtStep .readCommands c ∧
      ∀ command, front = some command → c.commands.contents.head? = some command :=
    fun front => hread.and fun c c' h hm command hc => hm.head? (h command hc)
  refine (triple_controlRead hread hfront fun s h => ⟨h, fun command hc => ?_⟩).bind hstable
    fun front => ?_
  · exact hc
  cases front with
  | none =>
    exact enter_control (hfront none) (by decide) (by decide) fun c h =>
      h.1.enter fun _ => .inl rfl
  | some command =>
    refine Triple.bind hstable (triple_controlModify (hfront (some command))
      (Handling.kept command) fun s hi h => ⟨fun hn => ⟨hn, id⟩, ?_⟩) fun _ =>
      (handleCommand_control hC command).bind hstable fun _ => ?_
    · exact popCommand_control h.1 (h.2 command rfl)
    · have hkept : ∀ b : Bool, OwnerKept fun c => HandledCommand c ∧
          (b = false → ¬ c.StopHandled) :=
        fun b => HandledCommand.kept.and fun c c' h hm hb hs => h hb (hm.stopHandled.mp hs)
      refine (shutdownRequested_control hC HandledCommand.kept fun c h => h.stop_requested).bind
        hstable fun requested => triple_ite (fun _ => ?_) fun hr => ?_
      · refine enter_control (hkept requested) (by decide) (by decide) fun c h => ?_
        have hstep : AtStep .breakCheck { c with loop.phase := .breakCheck } :=
          ⟨⟨h.1.started, rfl, h.1.fifo⟩, h.1.stop_requested, fun _ => .inl rfl⟩
        exact hstep.idle
      · refine triple_controlPure (P := fun c => HandledCommand c ∧
          (requested = false → ¬ c.StopHandled)) (Q := fun _ => ControlIdle) ControlIdle.kept
          fun c h => ?_
        exact AtStep.idle ⟨h.1.toLooping, h.1.stop_requested,
          fun hs => absurd hs (h.2 (by simpa using hr))⟩

end

end Anasa
