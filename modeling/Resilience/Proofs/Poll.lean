import Mathlib.Algebra.Order.Floor.Div
import Resilience.Poll
/-! # How long a wait goes on

A wait checks at its start and then once in every interval until the deadline has passed. The first
check that settles it ends it; without one it runs out at the first check that the deadline does
not lie behind.
-/
namespace Resilience

def Check.IsOpen : Check → Prop
  | .notYet | .transient _ => True
  | .holds | .fatal _ => False

instance : DecidablePred Check.IsOpen
  | .notYet | .transient _ => isTrue trivial
  | .holds | .fatal _ => isFalse id

namespace Poll

variable {σ : Type} (interval timeout : Duration) (check : StateM (Timed σ) Check) (s : Timed σ)

/-- How many checks a wait makes if none of them settles it: one for every interval that begins
before the deadline, and the last one. -/
def checkLimit : Nat := timeout.nanos ⌈/⌉ interval.nanos + 1

/-- Where a wait stands before a check, counted from zero, if none of those before settled it. -/
def before : Nat → Timed σ
  | 0 => s
  | k + 1 =>
    let after := (check (before k)).2
    { after with clock := after.clock.sleep interval }

def checked (k : Nat) : Check × Timed σ := check (before interval check s k)

variable {interval timeout check s}

theorem checkLimit_le (paced : 0 < interval.nanos) :
    checkLimit interval timeout ≤ attemptLimit interval timeout := by
  have below : timeout.nanos ⌈/⌉ interval.nanos ≤ timeout.nanos / interval.nanos + 1 := by
    rw [ceilDiv_le_iff_le_mul paced]
    exact (Nat.lt_mul_div_succ _ paced).le
  rw [checkLimit, attemptLimit, if_neg paced.ne']
  omega

theorem lt_checkLimit_iff (paced : 0 < interval.nanos) {k : Nat} :
    k + 1 < checkLimit interval timeout ↔ k * interval.nanos < timeout.nanos := by
  rw [checkLimit, Nat.succ_lt_succ_iff, ← not_iff_not, Nat.not_lt, Nat.not_lt,
    ceilDiv_le_iff_le_mul paced, Nat.mul_comm]

/-- A check that is made in time, but not before the deadline, is the last one. -/
theorem eq_checkLimit_of_late (paced : 0 < interval.nanos) {k : Nat}
    (inTime : k < checkLimit interval timeout) (late : timeout.nanos ≤ k * interval.nanos) :
    k + 1 = checkLimit interval timeout := by
  have last : ¬k + 1 < checkLimit interval timeout := fun more =>
    Nat.not_lt.mpr late ((lt_checkLimit_iff paced).mp more)
  omega

theorem before_succ (k : Nat) : before interval check s (k + 1) =
    before interval check (before interval check s 1) k := by
  induction k with
  | zero => rfl
  | succ k ih =>
    rw [before, ih]
    rfl

theorem checked_succ (k : Nat) : checked interval check s (k + 1) =
    checked interval check (before interval check s 1) k := by
  rw [checked, before_succ, checked]

/-- Where checks take no time, it is the sleeping between them that does. -/
theorem now_before (still : ∀ t, (check t).2.clock = t.clock) (k : Nat) :
    (before interval check s k).clock.now.nanos = s.clock.now.nanos + k * interval.nanos := by
  induction k with
  | zero => simp [before]
  | succ k ih =>
    rw [before, Clock.now_sleep, still, Duration.nanos_add, ih, Nat.succ_mul, Nat.add_assoc]

end Poll
end Resilience
