import Anasa.Concurrency.Pool

/-!
# Records of finished calls

The client of a call notes what the call returned, together with what the calling thread alone
changes, before the call and after it, and how far the other threads were. `recorded` is a call with
its client: the accesses of the client come before and after those of the call.

A log of such records `Leads` from one value to another if each call began where the one before it
had ended. Whatever a call returns and does is then said of its record, and the log puts the calls
of a run together.
-/

namespace Concurrency

variable {σ ρ α : Type}

/-- A finished call. -/
structure CallRecord (ρ α : Type) where
  returned : ρ
  /-- What the calling thread alone changes, before and after the call. -/
  before : α
  after : α
  /-- How far the other threads were, before and after the call. -/
  othersBefore : ℕ
  othersAfter : ℕ

/-- The calls of the log, the newest first, lead from one value to the other. -/
def CallRecord.Leads (start : α) : List (CallRecord ρ α) → α → Prop
  | [], a => a = start
  | r :: log, a => a = r.after ∧ Leads start log r.before

/-- A call whose client notes what it returned. -/
def recorded (own : σ → α) (others : σ → ℕ) (note : σ → CallRecord ρ α → σ) (call : Prog σ ρ) :
    Prog σ Unit := do
  let (before, othersBefore) ← .read fun s => (own s, others s)
  let returned ← call
  .modify fun s => note s ⟨returned, before, own s, othersBefore, others s⟩

/-- What a list holds stays when it grows. -/
theorem getElem?_of_isPrefix {l l' : List α} (h : l <+: l') {n : ℕ} (hn : n < l.length) :
    l'[n]? = l[n]? :=
  (List.prefix_iff_getElem?.mp h n hn).trans (List.getElem?_eq_getElem hn).symm

theorem recorded_run (own : σ → α) (others : σ → ℕ) (note : σ → CallRecord ρ α → σ)
    (call : Prog σ ρ) (s : σ) : ((recorded own others note call).run s).2 =
      note (call.run s).2 ⟨(call.run s).1, own s, own (call.run s).2, others s,
        others (call.run s).2⟩ := by
  unfold recorded
  rw [Prog.run_bind, Prog.run_read, Prog.run_bind, Prog.run_modify]

namespace Contract

variable {C : Contract σ} {P : σ → Prop} {own : σ → α} {others : σ → ℕ}
  {note : σ → CallRecord ρ α → σ} {call : Prog σ ρ}

/-- **A call and its client** obey a contract if the call does, whatever was there before it, and
the note that the client makes. -/
theorem Triple.recorded {B : α → ℕ → σ → Prop} {E : α → ℕ → ρ → σ → Prop}
    (hC : C.Stable) (hG : ∀ s, C.guar s s) (hP : C.Kept P) (hbegun : ∀ a n, C.Kept (B a n))
    (hended : ∀ a n r, C.Kept (E a n r))
    (hbegin : ∀ s, C.inv s → P s → B (own s) (others s) s)
    (hcall : ∀ a n, C.Triple (B a n) call (E a n))
    (hend : ∀ a n r s, C.inv s → E a n r s →
      C.guar s (note s ⟨r, a, own s, n, others s⟩) ∧ C.inv (note s ⟨r, a, own s, n, others s⟩) ∧
        P (note s ⟨r, a, own s, n, others s⟩)) :
    C.Triple P (Concurrency.recorded own others note call) fun _ => P := by
  apply (triple_read hG hP (fun b : α × ℕ => hbegun b.1 b.2) hbegin).bind hC
  rintro ⟨a, n⟩
  apply (hcall a n).bind hC
  intro r
  exact triple_modify (hended a n r) hP (hend a n r)

end Contract

end Concurrency
