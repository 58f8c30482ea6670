import Anasa.Scheduling.PlanSteps

/-!
# Dispatch keeps the plan

Every tile is submitted from the top of a sorted queue whose labels are fresh. A background tile
that the gate holds back has no other tile behind it, so dispatch ends with urgent or visible tiles
pending only if the executor takes no more.
-/

namespace Anasa

open Concurrency Contract PriorityQueue Scheduler

variable {S : Type} {cfg : Config} {kernel : RenderKernel S}

/-! ## The top of the queue -/

/-- Under the priority policy no tile is of a more important class than the top. -/
theorem PendingInv.background {tile : PendingRenderTile} {rest : List PendingRenderTile}
    {nextSequence : Int} (h : PendingInv cfg (tile :: rest) [] nextSequence)
    (hpolicy : cfg.scheduler.policyType = .priority)
    (htile : tile.classification.priority = .background) :
    ∀ t ∈ tile :: rest, t.classification.priority = .background := by
  intro t ht
  rcases List.mem_cons.mp ht with rfl | ht
  · exact htile
  · have hlower := h.sorted.head t ht
    rw [hpolicy] at hlower
    have hcmp := (PrioritySchedulingPolicy.hasLowerPrecedence_eq_false tile t).mp hlower
    rw [htile] at hcmp
    cases hp : t.classification.priority with
    | background => rfl
    | urgent =>
      rw [hp] at hcmp
      simp [RenderPriority.toInt] at hcmp
    | visible =>
      rw [hp] at hcmp
      simp [RenderPriority.toInt] at hcmp

/-- A submission takes the top of the queue, or changes nothing the plan is about. -/
theorem submitTile_pendingTiles (cfg : Config) (refused : Bool) (tile : PendingRenderTile)
    (r : RenderState S) : (submitTile cfg refused tile r).2.pendingTiles =
      if (submitTile cfg refused tile r).1 then r.pendingTiles.tail else r.pendingTiles := by
  unfold submitTile Executor.submit
  split
  · rfl
  · split
    · rename_i heq
      split at heq
      · cases heq
      · split at heq
        · cases heq
        · split at heq
          · cases heq
          · cases heq
            rfl
    · rfl

/-! ## The loop -/

/-- In a pass of `dispatchPendingTiles`, with at most so many pending tiles. -/
structure Dispatching (cfg : Config) (n : ℕ) (p : Plan) : Prop where
  started : p.sched.started = true
  phase : p.phase = .dispatchPendingTiles
  buffer : p.buffer = []
  fresh : cfg.scheduler.policyType = .priority → FreshLabels cfg p
  length_le : p.pendingTiles.length ≤ n

/-- `dispatchPendingTiles` has returned. -/
structure Dispatched (cfg : Config) (p : Plan) : Prop where
  started : p.sched.started = true
  buffer : p.buffer = []
  fresh : cfg.scheduler.policyType = .priority → FreshLabels cfg p
  ended : DispatchEnded cfg p

theorem Dispatched.idle {p : Plan} (h : Dispatched cfg p) :
    PlanIdle cfg { p with phase := .condition } where
  buffer := h.buffer
  started := iff_of_true h.started LoopPhase.noConfusion
  fresh hpolicy _ _ := .inr ((h.fresh hpolicy).of_eq rfl rfl rfl rfl rfl rfl rfl fun _ ht => ht)
  scheduled _ hphase := by cases hphase
  dispatched _ := h.ended

/-- The loop returns for a reason that leaves pending only what it may. -/
theorem endDispatch_plan {n : ℕ} {reason : DispatchEnd} {P : Plan → Prop}
    (hdispatching : ∀ p, P p → Dispatching cfg n p)
    (hended : ∀ p, PlanInv cfg p → P p →
      DispatchEnded cfg { p with history := { p.history with dispatchEnd := reason } }) :
    (planContract cfg kernel).Triple (fun s : EngineState S => P (planOf s)) (endDispatch reason)
      fun _ s => Dispatched cfg (planOf s) := by
  refine triple_planModify P (Dispatched cfg) (fun _ => ⟨rfl, rfl, rfl⟩) fun s _ hi h => ?_
  have hd := hdispatching _ h
  exact ⟨{ hi with }, hd.started, hd.buffer, fun hpolicy =>
    (hd.fresh hpolicy).of_eq rfl rfl rfl rfl rfl rfl rfl fun _ ht => ht, hended _ hi h⟩

/-- The top, which the gate does not hold back. -/
structure Submitting (cfg : Config) (n : ℕ) (tile : PendingRenderTile) (p : Plan) : Prop where
  dispatching : Dispatching cfg n p
  head : p.pendingTiles.head? = some tile
  gate : p.sched.backgroundAllowed = false → tile.classification.priority ≠ .background

/-- The plan after a tile is submitted. -/
theorem afterSubmit_planOf (refused : Bool) (tile : PendingRenderTile) (s : EngineState S)
    (h : (submitTile cfg refused tile s.render).1 = true) :
    planOf (afterSubmit tile true (submitTile cfg refused tile s.render).2 s) =
      { planOf s with
        pendingTiles := s.render.pendingTiles.tail
        history := { (planOf s).history with
          submissions := submission tile s.render.pendingTiles.tail s ::
            s.schedulingHistory.submissions } } := by
  have hpending := submitTile_pendingTiles cfg refused tile s.render
  rw [if_pos h] at hpending
  rw [submitTile_eq, hpending]
  rfl

/-- The plan after a refusal. -/
theorem afterRefusal_planOf (refused : Bool) (tile : PendingRenderTile) (s : EngineState S)
    (h : (submitTile cfg refused tile s.render).1 = false) :
    planOf (afterSubmit tile false (submitTile cfg refused tile s.render).2 s) = planOf s := by
  have hpending := submitTile_pendingTiles cfg refused tile s.render
  rw [if_neg (by simp [h])] at hpending
  rw [submitTile_eq, hpending]
  rfl

/-- The record of a tile that is submitted from the top of the queue. -/
theorem Submitting.ok {n : ℕ} {tile : PendingRenderTile} {s : EngineState S}
    (h : Submitting cfg n tile (planOf s)) (hi : PlanInv cfg (planOf s)) :
    (submission tile s.render.pendingTiles.tail s).Ok cfg := by
  have hcons : s.render.pendingTiles = tile :: s.render.pendingTiles.tail :=
    (List.cons_head?_tail h.head).symm
  have hsorted : Sorted (createSchedulingPolicy cfg.scheduler.policyType) s.render.pendingTiles :=
    hi.queue.sorted
  refine ⟨?_, ?_, fun hpolicy => ?_, fun hpolicy => ?_, fun hheld => ?_⟩
  · show Sorted _ (tile :: s.render.pendingTiles.tail)
    rw [← hcons]
    exact hsorted
  · show ∀ t ∈ tile :: s.render.pendingTiles.tail, ∀ t' ∈ tile :: s.render.pendingTiles.tail, _
    rw [← hcons]
    exact fun t ht t' ht' => hi.queue.uniform t (List.mem_append_left _ ht) t'
      (List.mem_append_left _ ht')
  · have hfresh := h.dispatching.fresh hpolicy
    exact ⟨hfresh.nonneg, hfresh.le_total⟩
  · show ∀ t ∈ tile :: s.render.pendingTiles.tail, _
    rw [← hcons]
    exact fun t ht => ((h.dispatching.fresh hpolicy).labelled t
      (List.mem_append_left _ ht)).of_eq rfl rfl rfl rfl
  · refine h.gate (hi.gate.trans ?_)
    rw [show heldBack cfg (planOf s).history.observations = true from hheld, Bool.not_true]

/-- Tiles leave the queue. -/
theorem Dispatching.pop {n : ℕ} {p p' : Plan} (h : Dispatching cfg n p) {m : ℕ}
    (hsched : p'.sched = p.sched) (hphase : p'.phase = p.phase) (hbuffer : p'.buffer = p.buffer)
    (hplayhead : p'.history.playheadFrame = p.history.playheadFrame)
    (horigins : p'.origins = p.origins) (hpending : p'.pendingTiles.Sublist p.pendingTiles)
    (hlength : p'.pendingTiles.length ≤ m) : Dispatching cfg m p' where
  started := hsched ▸ h.started
  phase := hphase ▸ h.phase
  buffer := hbuffer ▸ h.buffer
  fresh hpolicy := (h.fresh hpolicy).of_eq (by rw [hsched]) (by rw [hsched]) (by rw [hsched])
    (by rw [hsched]) (by rw [hsched]) hplayhead horigins fun t ht => by
      rw [Plan.waiting, hbuffer] at ht
      exact (hpending.append_right _).subset ht
  length_le := hlength

theorem submitTile_plan {n : ℕ} (refused : Bool) (tile : PendingRenderTile) :
    (planContract cfg kernel).Triple
      (fun s : EngineState S => Submitting cfg (n + 1) tile (planOf s))
      (.atomically fun s =>
        let (submitted, r) := submitTile cfg refused tile s.render
        (submitted, afterSubmit tile submitted r s))
      fun submitted s => Dispatching cfg (if submitted then n else n + 1) (planOf s) := by
  refine triple_owned_atomically (Submitting cfg (n + 1) tile)
    (fun submitted : Bool => Dispatching cfg (if submitted then n else n + 1)) fun s _ hi h => ?_
  dsimp only
  cases hsubmitted : (submitTile cfg refused tile s.render).1 with
  | false =>
    rw [afterRefusal_planOf refused tile s hsubmitted]
    exact ⟨.refl _, hi, h.dispatching⟩
  | true =>
    rw [afterSubmit_planOf refused tile s hsubmitted]
    have hsub : s.render.pendingTiles.tail.Sublist s.render.pendingTiles := List.tail_sublist _
    have hlength : s.render.pendingTiles.length ≤ n + 1 := h.dispatching.length_le
    refine ⟨.of_subperm (hsub.append_right _).subperm rfl,
      { hi with queue := hi.queue.pop, submissions := fun sub hsub => ?_ },
      h.dispatching.pop rfl rfl rfl rfl rfl hsub ?_⟩
    · rcases List.mem_cons.mp hsub with rfl | hold
      · exact h.ok hi
      · exact hi.submissions sub hold
    · simp only [List.length_tail, if_true]
      omega

/-- The gate holds the top back only under the priority policy, and then the tiles behind it are
background tiles too. -/
theorem heldBack_background {n : ℕ} {tile : PendingRenderTile} {p : Plan} (hi : PlanInv cfg p)
    (h : Dispatching cfg n p) (hhead : p.pendingTiles.head? = some tile)
    (hclosed : p.sched.backgroundAllowed = false)
    (hbackground : tile.classification.priority = .background) {t : PendingRenderTile}
    (ht : t ∈ p.pendingTiles) :
    ¬(cfg.scheduler.policyType = .fifo ∨ t.classification.priority ≠ .background) := by
  rcases hpolicy : cfg.scheduler.policyType with - | -
  · rw [hi.fifo hpolicy] at hclosed
    cases hclosed
  · have hcons := List.cons_head?_tail hhead
    have hqueue := hi.queue
    rw [h.buffer, ← hcons] at hqueue
    rw [← hcons] at ht
    have hall := hqueue.background hpolicy hbackground t ht
    exact fun h => h.elim (fun h => by cases h) fun h => h hall

theorem dispatchLoop_plan (refuses : ℕ → Bool) (n : ℕ) :
    (planContract cfg kernel).Triple
      (fun s : EngineState S => Dispatching cfg n (planOf s))
      (dispatchLoop cfg refuses n) fun _ s => Dispatched cfg (planOf s) := by
  have hstable := planContract_stable cfg kernel (S := S)
  induction n with
  | zero =>
    refine endDispatch_plan (fun _ h => h) fun p _ h t ht => ?_
    rw [List.length_eq_zero_iff.mp (Nat.le_zero.mp h.length_le)] at ht
    exact absurd ht List.not_mem_nil
  | succ n ih =>
    refine Triple.bind hstable (triple_planRead (Dispatching cfg (n + 1))
      (fun a p => Dispatching cfg (n + 1) p ∧ p.pendingTiles.head? = a.1)
      fun s _ _ h => ⟨h, rfl⟩) fun a => ?_
    rcases a with ⟨- | tile, queued⟩
    · refine endDispatch_plan (P := fun p => Dispatching cfg (n + 1) p ∧
        p.pendingTiles.head? = none) (fun _ h => h.1) fun p _ h t ht => ?_
      rw [List.head?_eq_none_iff.mp h.2] at ht
      exact absurd ht List.not_mem_nil
    · refine triple_ite (fun _ => ?_) fun hfull => ?_
      · refine Triple.bind hstable (triple_planRead
          (fun p => Dispatching cfg (n + 1) p ∧ p.pendingTiles.head? = some tile)
          (fun held p => (Dispatching cfg (n + 1) p ∧ p.pendingTiles.head? = some tile) ∧
            held = (!p.sched.backgroundAllowed &&
              decide (tile.classification.priority = .background))) fun s _ _ h => ⟨h, rfl⟩)
          fun held => triple_ite (fun hheld => ?_) fun hno => ?_
        · refine endDispatch_plan (P := fun p => (Dispatching cfg (n + 1) p ∧
            p.pendingTiles.head? = some tile) ∧ held = (!p.sched.backgroundAllowed &&
              decide (tile.classification.priority = .background))) (fun _ h => h.1.1)
            fun p hi h t ht hclass => ?_
          rw [hheld] at h
          simp only [eq_comm (a := true), Bool.and_eq_true, Bool.not_eq_true',
            decide_eq_true_eq] at h
          exact absurd hclass (heldBack_background hi h.1.1 h.1.2 h.2.1 h.2.2 ht)
        · refine Triple.bind hstable ((submitTile_plan (refuses n) tile).conseq
            (fun s _ h => ⟨h.1.1, h.1.2, fun hgate hbackground => hno ?_⟩) fun _ _ _ h => h)
            fun submitted => triple_ite (fun hs => ?_) fun hs => ?_
          · rw [h.2, hgate, hbackground]
            rfl
          · exact ih.conseq (fun s _ h => by rwa [hs] at h) fun _ _ _ h => h
          · refine endDispatch_plan (P := fun p => Dispatching cfg (if submitted then n else n + 1) p)
              (n := n + 1) (fun p h => ?_) fun p _ _ t _ _ => .inl rfl
            rwa [if_neg hs] at h
      · exact endDispatch_plan (P := fun p => Dispatching cfg (n + 1) p ∧
          p.pendingTiles.head? = some tile) (fun _ h => h.1)
          fun p _ _ t _ _ => .inr ⟨queued, by omega, rfl⟩

/-- **Dispatch.** -/
theorem dispatchPendingTiles_plan (refuses : ℕ → Bool) :
    (planContract cfg kernel).Triple
      (fun s : EngineState S => InLoop .dispatchPendingTiles (planOf s) ∧
        (cfg.scheduler.policyType = .priority → FreshLabels cfg (planOf s)))
      (dispatchPendingTiles cfg refuses) fun _ s => Dispatched cfg (planOf s) :=
  Triple.bind (planContract_stable cfg kernel) (triple_planRead
    (fun p => InLoop .dispatchPendingTiles p ∧ (cfg.scheduler.policyType = .priority →
      FreshLabels cfg p)) (Dispatching cfg)
    fun _ _ _ h => ⟨h.1.started, h.1.phase, h.1.buffer, h.2, le_rfl⟩) (dispatchLoop_plan refuses)

end Anasa
