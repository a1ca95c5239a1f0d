import Resilience.Duration.Basic
/-! # Virtual time

A clock that moves only when it is told to: sleeping takes exactly as long as asked for.
-/
namespace Resilience

structure Clock where
  now : Duration := .zero
  sleeps : Nat := 0
deriving DecidableEq, Repr, Inhabited

namespace Clock

def advance (c : Clock) (d : Duration) : Clock := { c with now := c.now + d }

def sleep (c : Clock) (d : Duration) : Clock := { now := c.now + d, sleeps := c.sleeps + 1 }

@[simp] theorem now_advance (c : Clock) (d : Duration) : (c.advance d).now = c.now + d := rfl
@[simp] theorem now_sleep (c : Clock) (d : Duration) : (c.sleep d).now = c.now + d := rfl
@[simp] theorem sleeps_advance (c : Clock) (d : Duration) : (c.advance d).sleeps = c.sleeps := rfl
@[simp] theorem sleeps_sleep (c : Clock) (d : Duration) : (c.sleep d).sleeps = c.sleeps + 1 := rfl

end Clock

structure Timed (σ : Type) where
  clock : Clock := {}
  state : σ
deriving DecidableEq, Repr

end Resilience
