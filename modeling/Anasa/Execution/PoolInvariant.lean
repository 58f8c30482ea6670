import Anasa.Execution.PoolSteps

/-!
# The invariant of a worker pool

1. `OwnerInv`: what the pool is like in each phase of `start` and `stop`.
2. `Awake`: as long as a worker sleeps, the others that are awake and the notifications still to
   come are enough for the queued tasks.
3. `TasksInv`: tasks are taken in the order in which they are accepted, each of them once, and
   those that `stop` drops are cancelled.
-/

namespace Anasa

open Concurrency

variable {S : Type} {cfg : Config}

/-- What the constructor of the executor checks. -/
theorem AcceptedConfig.executor_pos (cfg : AcceptedConfig) :
    0 < cfg.executor.workerCount ∧ 0 < cfg.executor.renderTasksQueueCapacity := by
  have h := runChecks_eq_ok.mp cfg.accepted
  constructor
  · exact cfg.valid.workerCount_pos
  · exact of_decide_eq_true (h
      (decide (0 < cfg.executor.renderTasksQueueCapacity),
        "queuedTaskCapacity must be greater than zero")
      (by simp [Config.checks, Config.executorChecks]))

/-! ## Workers -/

theorem length_pos_of_getElem? {l : List WorkerPhase} {i : ℕ} {a : WorkerPhase}
    (h : l[i]? = some a) : i < l.length :=
  (List.getElem?_eq_some_iff.mp h).1

/-- A worker that goes on leaves its phase for another one. -/
theorem count_setWorker {l : List WorkerPhase} {i : ℕ} {a : WorkerPhase} (h : l[i]? = some a)
    (b x : WorkerPhase) : (l.set i b).count x + (if a = x then 1 else 0) =
      l.count x + (if b = x then 1 else 0) := by
  obtain ⟨hlt, ha⟩ := List.getElem?_eq_some_iff.mp h
  rw [List.count_set hlt, ha]
  have hpos : a = x → 0 < l.count x := fun hax =>
    List.count_pos_iff.mpr (hax ▸ List.mem_of_getElem? h)
  by_cases hax : a = x
  · have := hpos hax
    simp only [hax, beq_self_eq_true, if_true, beq_iff_eq]
    omega
  · simp only [hax, beq_iff_eq, if_false]
    omega

theorem mem_setWorker {l : List WorkerPhase} {i : ℕ} {b x : WorkerPhase} (h : x ∈ l.set i b) :
    x ∈ l ∨ x = b := List.mem_or_eq_of_mem_set h

/-! ## The owner -/

/-- What the pool is like in a phase of `start` and `stop`. -/
def OwnerInv (cfg : Config) (started stopRequested : Bool) (workers : List WorkerPhase) :
    OwnerPhase → Prop
  | .idle => (started = true ∧ stopRequested = false ∧
      (workers.length : Int) = cfg.executor.workerCount) ∨ (started = false ∧ workers = [])
  | .discarding => started = true ∧ stopRequested = false ∧ workers = []
  | .spawning => started = true ∧ stopRequested = false ∧
      (workers.length : Int) ≤ cfg.executor.workerCount
  | .failing => started = true ∧ stopRequested = false
  | .notifying _ => started = true ∧ stopRequested = true
  | .joining _ joined => started = true ∧ stopRequested = true ∧ WorkerPhase.waiting ∉ workers ∧
      ∀ i < joined, workers[i]? = some .exited
  | .finishing _ => started = true ∧ stopRequested = true ∧ workers = []

namespace OwnerInv

variable {started stopRequested : Bool} {workers : List WorkerPhase} {owner : OwnerPhase}

/-- A worker that goes on changes nothing for the owner, since no worker falls asleep while the
executor stops. -/
theorem setWorker (h : OwnerInv cfg started stopRequested workers owner) {i : ℕ}
    {a b : WorkerPhase} (ha : workers[i]? = some a) (hexited : a ≠ .exited)
    (hb : b = .waiting → stopRequested = false) :
    OwnerInv cfg started stopRequested (workers.set i b) owner := by
  have hlength : (workers.set i b).length = workers.length := List.length_set
  have hempty : workers = [] → (workers.set i b) = [] := fun hnil => by
    rw [hnil]
    rfl
  cases owner with
  | idle =>
    unfold OwnerInv at h ⊢
    rw [hlength]
    exact h.imp_right fun hstopped => ⟨hstopped.1, hempty hstopped.2⟩
  | discarding => exact ⟨h.1, h.2.1, hempty h.2.2⟩
  | spawning =>
    unfold OwnerInv at h ⊢
    rw [hlength]
    exact h
  | failing => exact h
  | notifying caller => exact h
  | joining caller joined =>
    obtain ⟨hstarted, hstop, hawake, hjoined⟩ := h
    refine ⟨hstarted, hstop, fun hmem => ?_, fun k hk => ?_⟩
    · rcases mem_setWorker hmem with hmem | heq
      · exact hawake hmem
      · rw [hb heq.symm] at hstop
        cases hstop
    · have hne : i ≠ k := by
        rintro rfl
        exact hexited (Option.some.inj (ha.symm.trans (hjoined i hk)))
      rw [List.getElem?_set_ne hne]
      exact hjoined k hk
  | finishing caller => exact ⟨h.1, h.2.1, hempty h.2.2⟩

end OwnerInv

/-! ## The invariant -/

/-- Enough workers are awake, or about to be woken, for the tasks that are queued. -/
def Awake (p : WorkerPool S) : Prop :=
  WorkerPhase.waiting ∈ p.workers →
    p.render.executor.renderTasks.length ≤ p.notifications + p.workers.count .checking

structure PoolInv (cfg : Config) (p : WorkerPool S) : Prop where
  owner : OwnerInv cfg p.render.executor.started p.render.executor.stopRequested p.workers p.owner
  length_le : (p.render.executor.renderTasks.length : Int) ≤ cfg.executor.renderTasksQueueCapacity
  /-- Nothing is queued in an executor that is stopped or stops. -/
  closed : p.render.executor.started = false ∨ p.render.executor.stopRequested = true →
    p.render.executor.renderTasks = []
  exited : WorkerPhase.exited ∈ p.workers → p.render.executor.stopRequested = true
  awake : Awake p

namespace PoolInv

variable {p p' : WorkerPool S}

theorem init (hcapacity : 0 < cfg.executor.renderTasksQueueCapacity) {r : RenderState S}
    (hr : r.executor = {}) : PoolInv cfg { render := r } := by
  have htasks : r.executor.renderTasks = [] := by rw [hr]
  have hstarted : r.executor.started = false := by rw [hr]
  constructor
  case owner => exact .inr ⟨hstarted, rfl⟩
  case length_le =>
    show (r.executor.renderTasks.length : Int) ≤ _
    rw [htasks, List.length_nil]
    exact hcapacity.le
  case closed => exact fun _ => htasks
  case exited => nofun
  case awake => nofun

/-- The executor and the owner are the same, and so are the tasks, or fewer. -/
structure Alike (p p' : WorkerPool S) : Prop where
  started : p'.render.executor.started = p.render.executor.started
  stopRequested : p'.render.executor.stopRequested = p.render.executor.stopRequested
  owner : p'.owner = p.owner
  tasks : p'.render.executor.renderTasks <:+ p.render.executor.renderTasks

/-- **A worker goes on.** -/
theorem worker (h : PoolInv cfg p) (hlike : Alike p p') {i : ℕ} {a b : WorkerPhase}
    (ha : p.workers[i]? = some a) (hworkers : p'.workers = p.workers.set i b)
    (hexited : a ≠ .exited) (hexits : b = .exited → p.render.executor.stopRequested = true)
    (hwaits : b = .waiting → p.render.executor.stopRequested = false)
    (htasks : p'.render.executor.renderTasks = [] ∨ b ≠ .waiting ∧
      p'.render.executor.renderTasks.length + p.notifications + (if a = .checking then 1 else 0) ≤
        p.render.executor.renderTasks.length + p'.notifications +
          (if b = .checking then 1 else 0)) : PoolInv cfg p' := by
  have hlength := hlike.tasks.length_le
  constructor
  case owner =>
    rw [hlike.started, hlike.stopRequested, hlike.owner, hworkers]
    exact h.owner.setWorker ha hexited hwaits
  case length_le =>
    have := h.length_le
    omega
  case closed =>
    intro hclosed
    rw [hlike.started, hlike.stopRequested] at hclosed
    have hnil := h.closed hclosed
    have hsuffix := hlike.tasks
    rw [hnil] at hsuffix
    exact List.suffix_nil.mp hsuffix
  case exited =>
    intro hmem
    rw [hlike.stopRequested]
    rw [hworkers] at hmem
    exact (mem_setWorker hmem).elim h.exited fun hb => hexits hb.symm
  case awake =>
    intro hmem
    rcases htasks with hnil | ⟨hb, htasks⟩
    · rw [hnil]
      exact Nat.zero_le _
    · rw [hworkers] at hmem
      have hbefore : WorkerPhase.waiting ∈ p.workers :=
        (mem_setWorker hmem).resolve_right fun heq => hb heq.symm
      have hawake := h.awake hbefore
      have hcount := count_setWorker ha b .checking
      rw [hworkers]
      omega

/-- The request of `stop`. -/
theorem requestStop (h : PoolInv cfg p) (hstarted : p.render.executor.started = true)
    (caller : StopCaller) : PoolInv cfg (p.requestStop caller) := by
  have hexecutor : (p.requestStop caller).render.executor =
      { p.render.executor with stopRequested := true, renderTasks := [] } :=
    WorkerPool.dropTasks_executor _
  have htasks : (p.requestStop caller).render.executor.renderTasks = [] := by rw [hexecutor]
  have hstop : (p.requestStop caller).render.executor.stopRequested = true := by rw [hexecutor]
  constructor
  case owner =>
    refine ⟨?_, hstop⟩
    rw [hexecutor]
    exact hstarted
  case length_le =>
    have hle := h.length_le
    rw [htasks, List.length_nil]
    omega
  case closed => exact fun _ => htasks
  case exited => exact fun _ => hstop
  case awake =>
    intro _
    rw [htasks]
    exact Nat.zero_le _

/-- **A step** keeps the invariant. -/
theorem step (hworkers : 0 < cfg.executor.workerCount) {e : PoolEvent} (h : PoolInv cfg p)
    (hstep : PoolStep cfg p e p') : PoolInv cfg p' := by
  cases hstep with
  | refused task => exact h
  | accepted task hstarted hgoing hroom =>
    constructor
    case owner => exact h.owner
    case length_le =>
      simp only [List.length_append, List.length_cons, List.length_nil]
      push_cast
      omega
    case closed =>
      rintro (hclosed | hclosed)
      · exact absurd (hclosed.symm.trans hstarted) Bool.false_ne_true
      · exact absurd (hgoing.symm.trans hclosed) Bool.false_ne_true
    case exited => exact h.exited
    case awake =>
      intro hmem
      have := h.awake hmem
      simp only [List.length_append, List.length_cons, List.length_nil]
      omega
  | notifiesNobody hpending hnobody =>
    exact ⟨h.owner, h.length_le, h.closed, h.exited, fun hmem => absurd hmem hnobody⟩
  | notifies i hpending ha =>
    refine h.worker ⟨rfl, rfl, rfl, List.suffix_rfl⟩ ha rfl (by decide) nofun nofun (.inr ?_)
    refine ⟨by decide, ?_⟩
    simp only [reduceCtorEq, if_false, if_true, WorkerPool.setWorker_render]
    omega
  | popsNothing => exact h
  | pops job rest hjobs => exact ⟨h.owner, h.length_le, h.closed, h.exited, h.awake⟩
  | exits i ha hstop =>
    exact h.worker ⟨rfl, rfl, rfl, List.suffix_rfl⟩ ha rfl (by decide) (fun _ => hstop) nofun
      (.inl (h.closed (.inr hstop)))
  | waits i ha hgoing hempty =>
    exact h.worker ⟨rfl, rfl, rfl, List.suffix_rfl⟩ ha rfl (by decide) nofun
      (fun _ => hgoing) (.inl hempty)
  | takes i task rest ha hgoing htasks =>
    refine h.worker ⟨rfl, rfl, rfl, ?_⟩ ha rfl (by decide) nofun nofun (.inr ⟨nofun, ?_⟩)
    · exact htasks ▸ List.suffix_cons task rest
    · rw [htasks]
      simp only [if_true, reduceCtorEq, if_false, List.length_cons,
        WorkerPool.setWorker_notifications]
      omega
  | wakes i ha =>
    refine h.worker ⟨rfl, rfl, rfl, List.suffix_rfl⟩ ha rfl (by decide) nofun nofun (.inr ?_)
    refine ⟨by decide, ?_⟩
    simp only [reduceCtorEq, if_false, if_true, WorkerPool.setWorker_render,
      WorkerPool.setWorker_notifications]
    omega
  | processes i task rendered ha =>
    have hexecutor : (processed i rendered task p.render).2.executor =
        { p.render.executor with
          rendering := (processed i rendered task p.render).2.executor.rendering
          publishing := (processed i rendered task p.render).2.executor.publishing } := by
      unfold processed RenderTaskProcessor.finishTile
      cases rendered <;> rfl
    refine h.worker ⟨?_, ?_, rfl, ?_⟩ ha rfl nofun ?_ ?_ (.inr ⟨?_, ?_⟩)
    · rw [hexecutor]
    · rw [hexecutor]
    · have htasks : (processed i rendered task p.render).2.executor.renderTasks =
          p.render.executor.renderTasks := by rw [hexecutor]
      exact htasks ▸ List.suffix_rfl
    · intro hexits
      split at hexits <;> cases hexits
    · intro hwaits
      split at hwaits <;> cases hwaits
    · split <;> nofun
    · rw [hexecutor]
      simp only [reduceCtorEq, if_false, WorkerPool.setWorker_notifications]
      omega
  | publishes i job ha =>
    refine h.worker ⟨rfl, rfl, rfl, List.suffix_rfl⟩ ha rfl nofun nofun nofun (.inr ?_)
    refine ⟨by decide, ?_⟩
    simp only [reduceCtorEq, if_false, if_true, WorkerPool.setWorker_notifications,
      Executor.pushCompleted]
    omega
  | startsAgain howner hstarted =>
    have hidle := h.owner
    rw [howner] at hidle
    exact ⟨hidle, h.length_le, h.closed, h.exited, h.awake⟩
  | starts howner hstopped =>
    have hidle := h.owner
    rw [howner] at hidle
    obtain ⟨hstarted, -⟩ | ⟨-, hnone⟩ := hidle
    · exact absurd (hstopped.symm.trans hstarted) Bool.false_ne_true
    constructor
    case owner => exact ⟨rfl, rfl, hnone⟩
    case length_le => exact h.length_le
    case closed => exact fun _ => h.closed (.inl hstopped)
    case exited =>
      intro hmem
      rw [hnone] at hmem
      cases hmem
    case awake =>
      intro hmem
      rw [hnone] at hmem
      cases hmem
  | stopsAgain howner hstopped =>
    have hidle := h.owner
    rw [howner] at hidle
    exact ⟨hidle, h.length_le, h.closed, h.exited, h.awake⟩
  | stops howner hstarted => exact h.requestStop hstarted .owner
  | discards made howner =>
    have howned := h.owner
    rw [howner] at howned
    refine ⟨⟨howned.1, howned.2.1, ?_⟩, h.length_le, h.closed, h.exited, h.awake⟩
    show (p.workers.length : Int) ≤ _
    rw [howned.2.2]
    exact hworkers.le
  | makes howner hfewer =>
    have howned := h.owner
    rw [howner] at howned
    constructor
    case owner =>
      show OwnerInv cfg _ _ _ p.owner
      rw [howner]
      refine ⟨howned.1, howned.2.1, ?_⟩
      rw [List.length_append, List.length_singleton]
      push_cast
      omega
    case length_le => exact h.length_le
    case closed => exact h.closed
    case exited =>
      intro hmem
      rcases List.mem_append.mp hmem with hmem | hmem
      · exact h.exited hmem
      · cases List.mem_singleton.mp hmem
    case awake =>
      intro hmem
      rcases List.mem_append.mp hmem with hmem | hmem
      · have := h.awake hmem
        rw [List.count_append]
        dsimp only
        omega
      · cases List.mem_singleton.mp hmem
  | fails howner hfewer =>
    have howned := h.owner
    rw [howner] at howned
    exact ⟨⟨howned.1, howned.2.1⟩, h.length_le, h.closed, h.exited, h.awake⟩
  | hasStarted made howner hall =>
    have howned := h.owner
    rw [howner] at howned
    refine ⟨.inl ⟨howned.1, howned.2.1, ?_⟩, h.length_le, h.closed, h.exited, h.awake⟩
    exact le_antisymm howned.2.2 hall
  | stopsFailed made howner =>
    have howned := h.owner
    rw [howner] at howned
    exact h.requestStop howned.1 .start
  | notifiesAll made caller howner =>
    have howned := h.owner
    rw [howner] at howned
    have hnobody : WorkerPhase.waiting ∉ p.workers.map WorkerPool.notified := by
      intro hmem
      obtain ⟨phase, -, hphase⟩ := List.mem_map.mp hmem
      cases phase <;> cases hphase
    refine ⟨⟨howned.1, howned.2, hnobody, nofun⟩, h.length_le, h.closed, fun _ => howned.2,
      fun hmem => absurd hmem hnobody⟩
  | joins made caller joined howner hworker =>
    have howned := h.owner
    rw [howner] at howned
    obtain ⟨hstarted, hstop, hnobody, hjoined⟩ := howned
    refine ⟨⟨hstarted, hstop, hnobody, fun i hi => ?_⟩, h.length_le, h.closed, h.exited, h.awake⟩
    rcases Nat.lt_succ_iff_lt_or_eq.mp hi with hi | rfl
    · exact hjoined i hi
    · exact hworker
  | clears made caller joined howner hall =>
    have howned := h.owner
    rw [howner] at howned
    exact ⟨⟨howned.1, howned.2.1, rfl⟩, h.length_le, h.closed, nofun, nofun⟩
  | finishes made caller howner =>
    have howned := h.owner
    rw [howner] at howned
    obtain ⟨-, hstop, hnone⟩ := howned
    exact ⟨.inr ⟨rfl, hnone⟩, h.length_le, fun _ => h.closed (.inr hstop), h.exited, h.awake⟩

end PoolInv

end Anasa
