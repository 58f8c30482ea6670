import Mathlib.Data.List.Induction
import Anasa.Concurrency.Program

/-!
# Interleaved threads and rely-guarantee reasoning

A `Pool` is a shared state with threads, each of them idle or in the middle of a call. A *move*
starts a call on an idle thread, lets one thread make its next access, or runs a whole call with
nobody in between. A run is a list of moves, so "every interleaving" is "every list of moves",
and a run on given moves can be evaluated.

`Contract.Safe` is the rely-guarantee judgement of one program: if the other threads only do what
the program relies on, each of its accesses does what it guarantees and keeps the invariant, and
its result satisfies the postcondition. A `Discipline` is one contract for each thread, such that
what a thread guarantees is what the others rely on; `Discipline.run_sound` carries it over every
list of moves.
-/

namespace Concurrency

variable {ι κ σ α β : Type}

/-! ## Pools and moves -/

/-- The threads of a system and what their calls do. -/
structure Machine (ι κ σ : Type) where
  /-- The thread that makes the call. -/
  thread : κ → ι
  program : κ → Prog σ Unit

/-- A shared state and what each thread still has to do; `none` is an idle thread. -/
structure Pool (ι σ : Type) where
  state : σ
  thread : ι → Option (Prog σ Unit)

/-- One move of a pool. -/
inductive Move (ι κ : Type) where
  /-- The idle thread of the call starts it. -/
  | start (c : κ)
  /-- The thread makes the next access of its call, or leaves a finished call. -/
  | access (i : ι)
  /-- The idle thread of the call runs it from start to end. -/
  | whole (c : κ)

/-- The machine that makes only the calls `f c`. -/
def Machine.restrict {κ' : Type} (M : Machine ι κ σ) (f : κ' → κ) : Machine ι κ' σ :=
  ⟨fun c => M.thread (f c), fun c => M.program (f c)⟩

namespace Pool

variable [DecidableEq ι]

/-- A pool of idle threads. -/
def idle (s : σ) : Pool ι σ := ⟨s, fun _ => none⟩

/-- Thread `i` makes its next access. -/
def access (i : ι) (p : Pool ι σ) : Pool ι σ :=
  match p.thread i with
  | none => p
  | some (.pure _) => { p with thread := Function.update p.thread i none }
  | some (.access f k) =>
    ⟨f p.state, Function.update p.thread i (some (k p.state))⟩

/-- The effect of one move; a call on a thread that is busy is not made. -/
def apply (M : Machine ι κ σ) (p : Pool ι σ) : Move ι κ → Pool ι σ
  | .start c =>
    if (p.thread (M.thread c)).isNone then
      { p with thread := Function.update p.thread (M.thread c) (some (M.program c)) }
    else p
  | .access i => p.access i
  | .whole c =>
    if (p.thread (M.thread c)).isNone then { p with state := ((M.program c).run p.state).2 }
    else p

/-- The effect of a list of moves. -/
def run (M : Machine ι κ σ) (ms : List (Move ι κ)) (p : Pool ι σ) : Pool ι σ :=
  ms.foldl (apply M) p

@[simp] theorem run_nil (M : Machine ι κ σ) (p : Pool ι σ) : run M [] p = p := rfl

@[simp] theorem run_cons (M : Machine ι κ σ) (m : Move ι κ) (ms : List (Move ι κ))
    (p : Pool ι σ) : run M (m :: ms) p = run M ms (apply M p m) := rfl

theorem run_append (M : Machine ι κ σ) (ms ns : List (Move ι κ)) (p : Pool ι σ) :
    run M (ms ++ ns) p = run M ns (run M ms p) := List.foldl_append

/-- A whole call of an idle thread among idle threads. -/
theorem apply_whole_idle (M : Machine ι κ σ) (c : κ) (s : σ) :
    apply M (idle s) (.whole c) = idle ((M.program c).run s).2 := rfl

/-! ### Whole calls

When the only calls that are interrupted leave `v` alone, a run is a sequence of whole calls as
far as `v` is concerned. -/

variable {τ : Type}

/-- What the busy threads still have to do leaves `v` alone. -/
def BusyPreserve (v : σ → τ) (p : Pool ι σ) : Prop :=
  ∀ i q, p.thread i = some q → q.Preserves v

omit [DecidableEq ι] in
theorem busyPreserve_idle (v : σ → τ) (s : σ) : BusyPreserve v (idle s : Pool ι σ) := nofun

theorem BusyPreserve.update {v : σ → τ} {p : Pool ι σ} (hp : BusyPreserve v p) (s : σ) (i : ι)
    {t : Option (Prog σ Unit)} (ht : ∀ q, t = some q → q.Preserves v) :
    BusyPreserve v ⟨s, Function.update p.thread i t⟩ := by
  intro j q hq
  rcases eq_or_ne j i with rfl | hj
  · exact ht q ((Function.update_self j t p.thread).symm.trans hq)
  · exact hp j q ((Function.update_of_ne hj t p.thread).symm.trans hq)

/-- An access of a busy thread leaves `v` alone. -/
theorem BusyPreserve.access {v : σ → τ} {p : Pool ι σ} (hp : BusyPreserve v p) (i : ι) :
    BusyPreserve v (p.access i) ∧ v (p.access i).state = v p.state := by
  unfold Pool.access
  rcases ht : p.thread i with - | q
  · exact ⟨hp, rfl⟩
  · have hq := hp i q ht
    cases q with
    | pure a => exact ⟨hp.update _ i nofun, rfl⟩
    | access f k =>
      refine ⟨hp.update _ i fun q hq' => ?_, (hq p.state).1⟩
      cases hq'
      exact (hq p.state).2

/-- **Induction over whole calls.** What depends on `v` only and is kept by every whole call holds
after every run whose interrupted calls leave `v` alone. -/
theorem run_induction {M : Machine ι κ σ} {v : σ → τ} {P : σ → Prop} {allowed : Move ι κ → Prop}
    {p : Pool ι σ} (hp : BusyPreserve v p) (hP : P p.state)
    (hview : ∀ s s', v s' = v s → P s → P s')
    (hstart : ∀ c, allowed (.start c) → (M.program c).Preserves v)
    (hwhole : ∀ ms c, (∀ m ∈ ms, allowed m) → allowed (.whole c) → P (run M ms p).state →
      P ((M.program c).run (run M ms p).state).2)
    (ms : List (Move ι κ)) (hms : ∀ m ∈ ms, allowed m) :
    BusyPreserve v (run M ms p) ∧ P (run M ms p).state := by
  induction ms using List.reverseRecOn with
  | nil => exact ⟨hp, hP⟩
  | append_singleton ms m ih =>
    have hbefore : ∀ m ∈ ms, allowed m := fun m' hm' => hms m' (List.mem_append_left _ hm')
    have hm := hms m (List.mem_append_right _ List.mem_cons_self)
    obtain ⟨hbusy, hstate⟩ := ih hbefore
    rw [run_append]
    cases m with
    | start c =>
      rw [run_cons, run_nil]
      simp only [apply]
      split
      · refine ⟨hbusy.update _ _ fun q hq => ?_, hstate⟩
        cases hq
        exact hstart c hm
      · exact ⟨hbusy, hstate⟩
    | access i => exact ⟨(hbusy.access i).1, hview _ _ (hbusy.access i).2 hstate⟩
    | whole c =>
      rw [run_cons, run_nil]
      simp only [apply]
      split
      · exact ⟨hbusy, hwhole ms c hbefore hm hstate⟩
      · exact ⟨hbusy, hstate⟩

/-- A thread on which no call is started stays idle. -/
theorem run_thread_idle {M : Machine ι κ σ} {allowed : Move ι κ → Prop} {p : Pool ι σ} {i : ι}
    (hp : p.thread i = none) (hstart : ∀ c, allowed (.start c) → M.thread c ≠ i)
    (ms : List (Move ι κ)) (hms : ∀ m ∈ ms, allowed m) : (run M ms p).thread i = none := by
  induction ms generalizing p with
  | nil => exact hp
  | cons m ms ih =>
    refine ih (p := apply M p m) ?_ fun m' hm' => hms m' (List.mem_cons_of_mem _ hm')
    cases m with
    | start c =>
      have hne := hstart c (hms _ List.mem_cons_self)
      simp only [apply]
      split
      · exact (Function.update_of_ne hne.symm ..).trans hp
      · exact hp
    | access j =>
      rcases eq_or_ne i j with rfl | hne
      · simp only [apply, Pool.access, hp]
      · simp only [apply, Pool.access]
        split
        · exact hp
        · exact (Function.update_of_ne hne ..).trans hp
        · exact (Function.update_of_ne hne ..).trans hp
    | whole c =>
      simp only [apply]
      split <;> exact hp

end Pool

/-! ## Contracts -/

/-- What a thread may assume of the others, what it promises them, and what all of them keep. -/
structure Contract (σ : Type) where
  inv : σ → Prop
  rely : σ → σ → Prop
  guar : σ → σ → Prop

namespace Contract

variable {C : Contract σ}

/-- From `s`, with the other threads moving by `rely` before every access: each access of the
program is a `guar` step that keeps `inv`, and the result satisfies `Q` whenever it is used. -/
def Safe (C : Contract σ) (Q : α → σ → Prop) : Prog σ α → σ → Prop
  | .pure a, s => ∀ s', C.rely s s' → C.inv s' → Q a s'
  | .access f k, s => ∀ s', C.rely s s' → C.inv s' →
      C.guar s' (f s') ∧ C.inv (f s') ∧ C.Safe Q (k s') (f s')

/-- The rely of the contract is a preorder on the states that the other threads lead to. -/
structure Stable (C : Contract σ) : Prop where
  refl : ∀ {s₀ s}, C.rely s₀ s → C.rely s s
  trans : ∀ {s₁ s₂ s₃}, C.rely s₁ s₂ → C.rely s₂ s₃ → C.rely s₁ s₃

variable {Q R : α → σ → Prop} {p : Prog σ α} {s s' : σ}

/-- Moves of the other threads do not hurt a safe program. -/
theorem Safe.rely (hC : C.Stable) (hp : C.Safe Q p s) (h : C.rely s s') : C.Safe Q p s' := by
  cases p with
  | pure a => exact fun s'' h' hi => hp s'' (hC.trans h h') hi
  | access f k => exact fun s'' h' hi => hp s'' (hC.trans h h') hi

/-- A weaker postcondition. -/
theorem Safe.mono (hp : C.Safe Q p s) (h : ∀ a s', C.inv s' → Q a s' → R a s') :
    C.Safe R p s := by
  induction p generalizing s with
  | pure a => exact fun s' hr hi => h a s' hi (hp s' hr hi)
  | access f k ih =>
    intro s' hr hi
    obtain ⟨hg, hi', hk⟩ := hp s' hr hi
    exact ⟨hg, hi', ih s' hk⟩

/-- A program that is safe wherever the other threads may lead is safe. -/
theorem Safe.of_rely (hC : C.Stable) (h : ∀ s', C.rely s s' → C.inv s' → C.Safe Q p s') :
    C.Safe Q p s := by
  cases p with
  | pure a => exact fun s' hr hi => h s' hr hi s' (hC.refl hr) hi
  | access f k => exact fun s' hr hi => h s' hr hi s' (hC.refl hr) hi

theorem Safe.bind (hC : C.Stable) {g : α → Prog σ β} {T : β → σ → Prop}
    (hp : C.Safe Q p s) (hg : ∀ a s', C.inv s' → Q a s' → C.Safe T (g a) s') :
    C.Safe T (p >>= g) s := by
  induction p generalizing s with
  | pure a => exact Safe.of_rely hC fun s' hr hi => hg a s' hi (hp s' hr hi)
  | access f k ih =>
    intro s' hr hi'
    obtain ⟨hG, hf, hk⟩ := hp s' hr hi'
    exact ⟨hG, hf, ih s' hk⟩

/-- A safe program run with nobody in between keeps the invariant and reaches its
postcondition. -/
theorem Safe.run (hrefl : ∀ s, C.rely s s) (hp : C.Safe Q p s) (hi : C.inv s) :
    C.inv (p.run s).2 ∧ Q (p.run s).1 (p.run s).2 := by
  induction p generalizing s with
  | pure a => exact ⟨hi, hp s (hrefl s) hi⟩
  | access f k ih =>
    obtain ⟨-, hi', hk⟩ := hp s (hrefl s) hi
    exact ih s hk hi'

/-! ### Triples

`Triple P p Q`: from every state that satisfies the invariant and `P`, the program is safe with
postcondition `Q`. Pre- and postconditions are knowledge the other threads keep. -/

def Triple (C : Contract σ) (P : σ → Prop) (p : Prog σ α) (Q : α → σ → Prop) : Prop :=
  ∀ s, C.inv s → P s → C.Safe Q p s

/-- The moves of the other threads keep `P`. -/
def Kept (C : Contract σ) (P : σ → Prop) : Prop :=
  ∀ s s', P s → C.rely s s' → C.inv s' → P s'

variable {P P' : σ → Prop}

theorem kept_true : C.Kept fun _ => True := fun _ _ _ _ _ => trivial

theorem Kept.and (h : C.Kept P) (h' : C.Kept P') : C.Kept fun s => P s ∧ P' s :=
  fun s s' hP hr hi => ⟨h s s' hP.1 hr hi, h' s s' hP.2 hr hi⟩

theorem kept_exists {ι : Type} {P : ι → σ → Prop} (h : ∀ i, C.Kept (P i)) :
    C.Kept fun s => ∃ i, P i s := by
  rintro s s' ⟨i, hP⟩ hr hi
  exact ⟨i, h i s s' hP hr hi⟩

theorem Triple.conseq (h : C.Triple P p Q) (hP : ∀ s, C.inv s → P' s → P s)
    (hQ : ∀ a s, C.inv s → Q a s → R a s) : C.Triple P' p R :=
  fun s hi hs => (h s hi (hP s hi hs)).mono hQ

theorem Triple.bind (hC : C.Stable) {g : α → Prog σ β} {T : β → σ → Prop}
    (hp : C.Triple P p Q) (hg : ∀ a, C.Triple (Q a) (g a) T) : C.Triple P (p >>= g) T :=
  fun s hi hs => (hp s hi hs).bind hC fun a s' hi' hQ => hg a s' hi' hQ

/-- What the precondition says of the parameters may be used in the proof. -/
theorem Triple.of_pre {φ : Prop} (hφ : ∀ s, P s → φ) (h : φ → C.Triple P p Q) : C.Triple P p Q :=
  fun s hi hs => h (hφ s hs) s hi hs

theorem triple_pure {a : α} (hQ : C.Kept (Q a)) (h : ∀ s, C.inv s → P s → Q a s) :
    C.Triple P (pure a) Q :=
  fun s hi hs s' hr hi' => hQ s s' (h s hi hs) hr hi'

/-- An access: from every state with `P` that the other threads lead to, it must keep the contract
and establish `Q`. -/
theorem triple_atomically_rely {f : σ → α × σ} (hP : C.Kept P) (hQ : ∀ a, C.Kept (Q a))
    (h : ∀ s₀ s, C.rely s₀ s → C.inv s → P s →
      C.guar s (f s).2 ∧ C.inv (f s).2 ∧ Q (f s).1 (f s).2) :
    C.Triple P (Prog.atomically f) Q := by
  intro s _ hs s' hr hi'
  obtain ⟨hg, hinv, hq⟩ := h s s' hr hi' (hP s s' hs hr hi')
  exact ⟨hg, hinv, fun s'' hr' hi'' => hQ _ _ _ hq hr' hi''⟩

theorem triple_modify_rely {f : σ → σ} {Q : Unit → σ → Prop} (hP : C.Kept P)
    (hQ : C.Kept (Q ())) (h : ∀ s₀ s, C.rely s₀ s → C.inv s → P s →
      C.guar s (f s) ∧ C.inv (f s) ∧ Q () (f s)) :
    C.Triple P (Prog.modify f) Q := by
  intro s _ hs s' hr hi'
  obtain ⟨hg, hinv, hq⟩ := h s s' hr hi' (hP s s' hs hr hi')
  exact ⟨hg, hinv, fun s'' hr' hi'' => hQ _ _ hq hr' hi''⟩

theorem triple_atomically {f : σ → α × σ} (hP : C.Kept P) (hQ : ∀ a, C.Kept (Q a))
    (h : ∀ s, C.inv s → P s →
      C.guar s (f s).2 ∧ C.inv (f s).2 ∧ Q (f s).1 (f s).2) :
    C.Triple P (Prog.atomically f) Q :=
  triple_atomically_rely hP hQ fun _ s _ => h s

theorem triple_modify {f : σ → σ} {Q : Unit → σ → Prop} (hP : C.Kept P) (hQ : C.Kept (Q ()))
    (h : ∀ s, C.inv s → P s → C.guar s (f s) ∧ C.inv (f s) ∧ Q () (f s)) :
    C.Triple P (Prog.modify f) Q :=
  triple_modify_rely hP hQ fun _ s _ => h s

theorem triple_read_rely {r : σ → α} (hG : ∀ s, C.guar s s) (hP : C.Kept P)
    (hQ : ∀ a, C.Kept (Q a)) (h : ∀ s₀ s, C.rely s₀ s → C.inv s → P s → Q (r s) s) :
    C.Triple P (Prog.read r) Q := by
  intro s _ hs s' hr hi'
  have hs' := hP s s' hs hr hi'
  exact ⟨hG s', hi', fun s'' hr' hi'' => hQ _ _ _ (h s s' hr hi' hs') hr' hi''⟩

theorem triple_read {r : σ → α} (hG : ∀ s, C.guar s s) (hP : C.Kept P)
    (hQ : ∀ a, C.Kept (Q a)) (h : ∀ s, C.inv s → P s → Q (r s) s) :
    C.Triple P (Prog.read r) Q :=
  triple_read_rely hG hP hQ fun _ s _ => h s

/-- What the precondition says exists may be fixed in the proof. -/
theorem triple_exists {ι : Type} {P : ι → σ → Prop} (h : ∀ i, C.Triple (P i) p Q) :
    C.Triple (fun s => ∃ i, P i s) p Q := by
  rintro s hi ⟨i, hs⟩
  exact h i s hi hs

theorem triple_ite {c : Prop} [Decidable c] {q : Prog σ α} (hp : c → C.Triple P p Q)
    (hq : ¬c → C.Triple P q Q) : C.Triple P (if c then p else q) Q := by
  split
  · exact hp ‹_›
  · exact hq ‹_›

/-- A loop over a list keeps what each of its passes keeps. -/
theorem triple_forEach (hC : C.Stable) (hP : C.Kept P) {f : β → Prog σ Unit} {xs : List β}
    (h : ∀ x ∈ xs, C.Triple P (f x) fun _ => P) :
    C.Triple P (Prog.forEach f xs) fun _ => P := by
  induction xs with
  | nil => exact triple_pure hP fun _ _ hs => hs
  | cons x xs ih =>
    exact (h x List.mem_cons_self).bind hC fun _ => ih fun y hy => h y (List.mem_cons_of_mem _ hy)

/-- A program that leaves `v` alone keeps the contract and the knowledge that depend on `v`
only. -/
theorem triple_of_preserves {τ : Type} {v : σ → τ} (hp : p.Preserves v) (hP : C.Kept P)
    (h : ∀ s s', v s' = v s → C.inv s → P s → C.guar s s' ∧ C.inv s' ∧ P s') :
    C.Triple P p fun _ => P := by
  induction p with
  | pure a => exact triple_pure hP fun _ _ hs => hs
  | access f k ih =>
    intro s _ hs s' hr hi'
    obtain ⟨hg, hinv, hP'⟩ := h s' (f s') (hp s').1 hi' (hP s s' hs hr hi')
    exact ⟨hg, hinv, ih s' (hp s').2 (f s') hinv hP'⟩

/-- **Frame rule.** What depends on a part of the state only, which the program leaves alone, is
known after it if it was known before. -/
theorem Safe.frame {τ : Type} {v : σ → τ} {K : σ → Prop} (h : C.Safe Q p s) (hp : p.Preserves v)
    (hK : C.Kept K) (hv : ∀ s s', v s' = v s → K s → K s') (hs : K s) :
    C.Safe (fun a s => Q a s ∧ K s) p s := by
  induction p generalizing s with
  | pure a => exact fun s' hr hi => ⟨h s' hr hi, hK s s' hs hr hi⟩
  | access f k ih =>
    intro s' hr hi
    obtain ⟨hg, hinv, hk⟩ := h s' hr hi
    have hs' := hv s' (f s') (hp s').1 (hK s s' hs hr hi)
    exact ⟨hg, hinv, ih s' hk (hp s').2 hs'⟩

theorem Triple.frame {τ : Type} {v : σ → τ} {K : σ → Prop} (h : C.Triple P p Q)
    (hp : p.Preserves v) (hK : C.Kept K) (hv : ∀ s s', v s' = v s → K s → K s') :
    C.Triple (fun s => P s ∧ K s) p fun a s => Q a s ∧ K s :=
  fun s hi hs => (h s hi hs.1).frame hp hK hv hs.2

end Contract

/-! ## Disciplines -/

/-- One contract for each thread of a machine. What a thread guarantees is what the others rely
on, and every call is safe for a thread that knows `idle` between two calls. -/
structure Discipline (M : Machine ι κ σ) where
  inv : σ → Prop
  rely : ι → σ → σ → Prop
  guar : ι → σ → σ → Prop
  idle : ι → σ → Prop
  rely_refl : ∀ i s, rely i s s
  rely_trans : ∀ {i s₁ s₂ s₃}, rely i s₁ s₂ → rely i s₂ s₃ → rely i s₁ s₃
  compatible : ∀ {i j s s'}, i ≠ j → inv s → inv s' → guar i s s' → rely j s s'
  idle_stable : ∀ {i s s'}, idle i s → rely i s s' → inv s' → idle i s'
  call_safe : ∀ c s, inv s → idle (M.thread c) s →
    Contract.Safe ⟨inv, rely (M.thread c), guar (M.thread c)⟩ (fun _ => idle (M.thread c))
      (M.program c) s

namespace Discipline

variable {M : Machine ι κ σ} (D : Discipline M)

/-- The contract of thread `i`. -/
def contract (i : ι) : Contract σ := ⟨D.inv, D.rely i, D.guar i⟩

theorem contract_stable (i : ι) : (D.contract i).Stable :=
  ⟨fun {_ s} _ => D.rely_refl i s, D.rely_trans⟩

/-- What is known of a thread: an idle one knows `idle`, a busy one is safe. -/
def ThreadSound (i : ι) (t : Option (Prog σ Unit)) (s : σ) : Prop :=
  match t with
  | none => D.idle i s
  | some p => (D.contract i).Safe (fun _ => D.idle i) p s

/-- The invariant holds and every thread is sound. -/
structure Sound (p : Pool ι σ) : Prop where
  inv : D.inv p.state
  thread : ∀ i, D.ThreadSound i (p.thread i) p.state

variable {D}

theorem ThreadSound.rely {i : ι} {t : Option (Prog σ Unit)} {s s' : σ}
    (h : D.ThreadSound i t s) (hr : D.rely i s s') (hi : D.inv s') : D.ThreadSound i t s' := by
  cases t with
  | none => exact D.idle_stable h hr hi
  | some p => exact Contract.Safe.rely (D.contract_stable i) h hr

theorem sound_idle {s : σ} (hi : D.inv s) (h : ∀ i, D.idle i s) : D.Sound (Pool.idle s) :=
  ⟨hi, h⟩

/-- The accesses of one thread, taken together, are a step the others rely on. -/
theorem Safe.run_rely {i j : ι} (hij : i ≠ j) {Q : α → σ → Prop} {p : Prog σ α} {s : σ}
    (hp : (D.contract i).Safe Q p s) (hi : D.inv s) : D.rely j s (p.run s).2 := by
  induction p generalizing s with
  | pure a => exact D.rely_refl j s
  | access f k ih =>
    obtain ⟨hg, hi', hk⟩ := hp s (D.rely_refl i s) hi
    exact D.rely_trans (D.compatible hij hi hi' hg) (ih s hk hi')

variable [DecidableEq ι]

/-- Replacing one thread and the state keeps a pool sound, if the other threads rely on it. -/
theorem Sound.update {p : Pool ι σ} (hp : D.Sound p) {i : ι} {t : Option (Prog σ Unit)} {s : σ}
    (hi : D.inv s) (ht : D.ThreadSound i t s) (hr : ∀ j, i ≠ j → D.rely j p.state s) :
    D.Sound ⟨s, Function.update p.thread i t⟩ := by
  refine ⟨hi, fun j => ?_⟩
  by_cases hj : j = i
  · subst hj
    simpa using ht
  · simpa [Function.update_of_ne hj] using (hp.thread j).rely (hr j (Ne.symm hj)) hi

theorem Sound.access {p : Pool ι σ} (hp : D.Sound p) (i : ι) : D.Sound (p.access i) := by
  have hs := hp.thread i
  unfold Pool.access
  rcases ht : p.thread i with - | q
  · exact hp
  · rw [ht] at hs
    cases q with
    | pure a =>
      exact hp.update hp.inv (hs p.state (D.rely_refl i _) hp.inv) fun j _ => D.rely_refl j _
    | access f k =>
      obtain ⟨hg, hi, hk⟩ := hs p.state (D.rely_refl i _) hp.inv
      exact hp.update hi hk fun j hj => D.compatible hj hp.inv hi hg

/-- An access of a thread is a step that the thread guarantees. -/
theorem Sound.access_guar {p : Pool ι σ} (hp : D.Sound p) (i : ι) :
    (p.access i).state = p.state ∨ D.guar i p.state (p.access i).state := by
  have hs := hp.thread i
  unfold Pool.access
  rcases ht : p.thread i with - | q
  · exact .inl rfl
  · rw [ht] at hs
    cases q with
    | pure a => exact .inl rfl
    | access f k => exact .inr (hs p.state (D.rely_refl i _) hp.inv).1

/-- A move keeps a pool sound. -/
theorem Sound.apply {p : Pool ι σ} (hp : D.Sound p) (m : Move ι κ) :
    D.Sound (Pool.apply M p m) := by
  cases m with
  | access i => exact hp.access i
  | start c =>
    rcases ht : p.thread (M.thread c) with - | q
    · have hs := hp.thread (M.thread c)
      rw [ht] at hs
      simp only [Pool.apply, ht, Option.isNone_none, if_true]
      exact hp.update hp.inv (D.call_safe c p.state hp.inv hs) fun j _ => D.rely_refl j _
    · simpa only [Pool.apply, ht, Option.isNone_some, Bool.false_eq_true, if_false] using hp
  | whole c =>
    rcases ht : p.thread (M.thread c) with - | q
    · have hs := hp.thread (M.thread c)
      rw [ht] at hs
      have hsafe := D.call_safe c p.state hp.inv hs
      have hrun := Contract.Safe.run (D.rely_refl _) hsafe hp.inv
      have hupd := hp.update (i := M.thread c) (t := none) hrun.1 hrun.2
        fun j hj => Safe.run_rely hj hsafe hp.inv
      simp only [Pool.apply, ht, Option.isNone_none, if_true]
      rwa [← ht, Function.update_eq_self] at hupd
    · simpa only [Pool.apply, ht, Option.isNone_some, Bool.false_eq_true, if_false] using hp

/-- **Soundness.** Every interleaving of calls that obey the discipline keeps the invariant. -/
theorem Sound.run {p : Pool ι σ} (hp : D.Sound p) (ms : List (Move ι κ)) :
    D.Sound (Pool.run M ms p) := by
  induction ms generalizing p with
  | nil => exact hp
  | cons m ms ih => exact ih (hp.apply m)

end Discipline

end Concurrency
