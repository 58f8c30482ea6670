import Mathlib.Algebra.Order.Ring.Int
import Mathlib.Tactic.NormNum

/-!
# Checked machine integers

Signed arithmetic of a given width that fails where the machine would overflow or divide by zero,
and conditions that fail where an assertion would. Division truncates towards zero. Each operation
has the exact result when that fits.
-/

namespace CheckedInt

/-- The values of a signed integer of `w` bits. -/
def Fits (w : ℕ) (x : Int) : Prop := -2 ^ (w - 1) ≤ x ∧ x < 2 ^ (w - 1)

instance (w : ℕ) : DecidablePred (Fits w) := fun _ => inferInstanceAs (Decidable (_ ∧ _))

theorem Fits.of_le {w : ℕ} {x y : Int} (h : Fits w y) (h₀ : 0 ≤ x) (hle : x ≤ y) : Fits w x :=
  ⟨(neg_nonpos.mpr (by positivity)).trans h₀, hle.trans_lt h.2⟩

/-- A condition that fails if it does not hold. -/
def require (p : Prop) [Decidable p] : Option Unit := if p then some () else none

/-- A result that fails if it does not fit. -/
def exact (w : ℕ) (x : Int) : Option Int := if Fits w x then some x else none

def add (w : ℕ) (a b : Int) : Option Int := exact w (a + b)

def sub (w : ℕ) (a b : Int) : Option Int := exact w (a - b)

def mul (w : ℕ) (a b : Int) : Option Int := exact w (a * b)

def abs (w : ℕ) (a : Int) : Option Int := exact w |a|

/-- Division that truncates. -/
def div (w : ℕ) (a b : Int) : Option Int := if b = 0 then none else exact w (a.tdiv b)

/-- The remainder of the division that truncates; it overflows where the division does. -/
def rem (w : ℕ) (a b : Int) : Option Int :=
  if b = 0 ∨ ¬ Fits w (a.tdiv b) then none else exact w (a.tmod b)

section

variable {w : ℕ} {a b : Int} {p : Prop} [Decidable p]

theorem require_of (h : p) : require p = some () := if_pos h

theorem exact_of (h : Fits w a) : exact w a = some a := if_pos h

theorem add_of (h : Fits w (a + b)) : add w a b = some (a + b) := if_pos h

theorem sub_of (h : Fits w (a - b)) : sub w a b = some (a - b) := if_pos h

theorem mul_of (h : Fits w (a * b)) : mul w a b = some (a * b) := if_pos h

theorem abs_of (h : Fits w |a|) : abs w a = some |a| := if_pos h

/-- Of a dividend that is not negative, the quotient is that of the integers. -/
theorem div_of (ha : Fits w a) (h₀ : 0 ≤ a) (hb : 0 < b) : div w a b = some (a / b) := by
  unfold div
  rw [if_neg hb.ne', Int.tdiv_eq_ediv_of_nonneg h₀]
  exact exact_of (ha.of_le (Int.ediv_nonneg h₀ hb.le) (Int.ediv_le_self b h₀))

/-- Of a dividend that is not negative, the remainder is that of the integers. -/
theorem rem_of (ha : Fits w a) (h₀ : 0 ≤ a) (hb : 0 < b) : rem w a b = some (a % b) := by
  have hquotient : Fits w (a.tdiv b) := by
    rw [Int.tdiv_eq_ediv_of_nonneg h₀]
    exact ha.of_le (Int.ediv_nonneg h₀ hb.le) (Int.ediv_le_self b h₀)
  have hzero : ¬ (b = 0 ∨ ¬ Fits w (a.tdiv b)) := by
    rintro (h | h)
    · exact hb.ne' h
    · exact h hquotient
  unfold rem
  rw [if_neg hzero, Int.tmod_eq_emod_of_nonneg h₀]
  refine exact_of (ha.of_le (Int.emod_nonneg a hb.ne') ?_)
  have hquot := Int.mul_nonneg hb.le (Int.ediv_nonneg h₀ hb.le)
  have hsum := Int.mul_ediv_add_emod a b
  omega

end

end CheckedInt
