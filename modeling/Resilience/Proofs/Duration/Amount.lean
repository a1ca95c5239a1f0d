import Mathlib.Algebra.GroupWithZero.Nat
import Resilience.Duration
/-! # Amounts of time

An amount is a count of a unit. What a duration is written as are amounts, which add up to it, and
each of them is added exactly while the sum is no longer than any time.
-/
namespace Resilience.Duration

def TimeUnit.nanos (u : TimeUnit) : Nat :=
  match u.scale with
  | .nanos f => f
  | .seconds f => f * nanosPerSecond

structure Amount where
  count : Nat
  unit : TimeUnit
  name : String
  named : TimeUnit.ofName? name = some unit
  /-- Units below a second do not count up to one. -/
  fine : ∀ f, unit.scale = .nanos f → count * f < nanosPerSecond

namespace Amount

def text (a : Amount) : String := toString a.count ++ a.name

def nanos (a : Amount) : Nat := a.count * a.unit.nanos

end Amount

/-! ## Adding -/

theorem nanos_eq (d : Duration) : d.nanos = d.seconds * nanosPerSecond + d.subsecond :=
  (Nat.div_add_mod' ..).symm

theorem TimeUnit.nanos_pos (u : TimeUnit) : 0 < u.nanos := by
  cases u <;> decide

theorem bounded_of_lt {n : Nat} (h : n < twoTo 64) : bounded n = .ok n := if_pos h

theorem extend_eq {total : Duration} {seconds nanos : Nat} (fine : nanos < nanosPerSecond)
    (room : total.nanos + (seconds * nanosPerSecond + nanos) ≤ longest.nanos) :
    extend total seconds nanos = .ok ⟨total.nanos + (seconds * nanosPerSecond + nanos)⟩ := by
  have parts := total.nanos_eq
  have below : total.subsecond < nanosPerSecond := Nat.mod_lt _ (by decide)
  have long : longest.nanos = 18446744073709551615999999999 := by decide
  have many : twoTo 64 = 18446744073709551616 := by decide
  simp only [nanosPerSecond] at *
  have first : total.subsecond + nanos < twoTo 64 := by omega
  have second : seconds + (total.subsecond + nanos) / 1000000000 < twoTo 64 := by omega
  have third : total.seconds + (seconds + (total.subsecond + nanos) / 1000000000) < twoTo 64 := by
    omega
  simp only [extend, bounded_of_lt first, nanosPerSecond, bind, Except.bind, bounded_of_lt second,
    bounded_of_lt third, pure, Except.pure]
  refine congrArg (fun n => Except.ok (Duration.mk n)) ?_
  omega

variable {total : Duration} {n : Nat}

theorem extend_nanos (fine : n < nanosPerSecond) (room : total.nanos + n ≤ longest.nanos) :
    extend total 0 n = .ok ⟨total.nanos + n⟩ := by
  have whole : 0 * nanosPerSecond + n = n := by rw [Nat.zero_mul, Nat.zero_add]
  rw [← whole] at room
  rw [extend_eq fine room, whole]

theorem extend_seconds (room : total.nanos + n * nanosPerSecond ≤ longest.nanos) :
    extend total n 0 = .ok ⟨total.nanos + n * nanosPerSecond⟩ := by
  rw [← Nat.add_zero (n * nanosPerSecond)] at room ⊢
  exact extend_eq (by decide) room

theorem seconds_lt (room : n * nanosPerSecond ≤ longest.nanos) : n < twoTo 64 := by
  have long : longest.nanos < twoTo 64 * nanosPerSecond := by decide
  exact Nat.lt_of_mul_lt_mul_right (Nat.lt_of_le_of_lt room long)

namespace Amount

theorem count_lt (a : Amount) (room : a.nanos ≤ longest.nanos) : a.count < twoTo 64 := by
  have fine := a.fine
  have unscaled : a.count ≤ a.nanos := Nat.le_mul_of_pos_right _ a.unit.nanos_pos
  have some := a.unit.nanos_pos
  unfold nanos TimeUnit.nanos at *
  generalize a.unit.scale = scale at *
  cases scale with
  | nanos f =>
    have second : nanosPerSecond < twoTo 64 := by decide
    exact Nat.lt_of_le_of_lt unscaled (Nat.lt_trans (fine f rfl) second)
  | seconds f =>
    have some : 0 < f := Nat.pos_of_mul_pos_right some
    rw [← Nat.mul_assoc] at room
    exact Nat.lt_of_le_of_lt (Nat.le_mul_of_pos_right _ some) (seconds_lt room)

/-- An amount is added exactly if the sum is no longer than any time. -/
theorem extendAmount_eq (a : Amount) (room : total.nanos + a.nanos ≤ longest.nanos) :
    extendAmount total a.count none a.name = .ok ⟨total.nanos + a.nanos⟩ := by
  have fine := a.fine
  unfold nanos TimeUnit.nanos at *
  simp only [extendAmount, a.named, extendScaled]
  generalize a.unit.scale = scale at *
  cases scale with
  | nanos f =>
    have fine := fine f rfl
    have second : nanosPerSecond < twoTo 64 := by decide
    simp only [bounded_of_lt (Nat.lt_trans fine second), bind, Except.bind, pure, Except.pure,
      extend_nanos fine room]
  | seconds f =>
    simp only [← Nat.mul_assoc] at *
    have count := seconds_lt (Nat.le_trans (Nat.le_add_left _ _) room)
    simp only [bounded_of_lt count, bind, Except.bind, pure, Except.pure, extend_seconds room]

end Amount

/-! ## Written parts -/

/-- Parts that are amounts of so many nanoseconds together. -/
def AddUp (ps : List String) (n : Nat) : Prop :=
  ∃ as : List Amount, ps = as.map Amount.text ∧ (as.map Amount.nanos).sum = n

theorem AddUp.of_eq {ps : List String} {m n : Nat} (h : AddUp ps m) (same : m = n) : AddUp ps n :=
  same ▸ h

theorem AddUp.append {ps qs : List String} {m n : Nat} (h : AddUp ps m) (h' : AddUp qs n) :
    AddUp (ps ++ qs) (m + n) := by
  obtain ⟨as, rfl, rfl⟩ := h
  obtain ⟨bs, rfl, rfl⟩ := h'
  exact ⟨as ++ bs, List.map_append.symm, by rw [List.map_append, List.sum_append]⟩

section Parts

variable {count : Nat} {unit : String} {u : TimeUnit}
  (fine : ∀ f, u.scale = .nanos f → count * f < nanosPerSecond)
include fine

theorem signPart_addUp (named : TimeUnit.ofName? unit = some u) :
    AddUp (signPart count unit) (count * u.nanos) := by
  unfold signPart
  split
  · next none => exact ⟨[], rfl, by rw [none, Nat.zero_mul]; rfl⟩
  · exact ⟨[⟨count, u, unit, named, fine⟩], rfl, List.sum_singleton⟩

theorem wordPart_addUp (one : TimeUnit.ofName? unit = some u)
    (many : TimeUnit.ofName? (unit ++ "s") = some u) :
    AddUp (wordPart count unit) (count * u.nanos) := by
  unfold wordPart
  split
  · next none => exact ⟨[], rfl, by rw [none, Nat.zero_mul]; rfl⟩
  · split
    · exact ⟨[⟨count, u, unit, one, fine⟩], rfl, List.sum_singleton⟩
    · refine ⟨[⟨count, u, unit ++ "s", many, fine⟩], ?_, List.sum_singleton⟩
      rw [String.append_assoc]
      rfl

end Parts

theorem parts_addUp (d : Duration) : AddUp d.parts d.nanos := by
  have below : d.subsecond < 1000000000 := Nat.mod_lt _ (by decide)
  have few (n : Nat) : n % 1000 < 1000 := Nat.mod_lt _ (by decide)
  have years (n : Nat) : AddUp (wordPart n "year") (n * TimeUnit.year.nanos) :=
    wordPart_addUp nofun rfl rfl
  have months (n : Nat) : AddUp (wordPart n "month") (n * TimeUnit.month.nanos) :=
    wordPart_addUp nofun rfl rfl
  have days (n : Nat) : AddUp (wordPart n "day") (n * TimeUnit.day.nanos) :=
    wordPart_addUp nofun rfl rfl
  have hours (n : Nat) : AddUp (signPart n "h") (n * TimeUnit.hour.nanos) :=
    signPart_addUp nofun rfl
  have minutes (n : Nat) : AddUp (signPart n "m") (n * TimeUnit.minute.nanos) :=
    signPart_addUp nofun rfl
  have seconds (n : Nat) : AddUp (signPart n "s") (n * TimeUnit.second.nanos) :=
    signPart_addUp nofun rfl
  have millis : AddUp (signPart (d.subsecond / 1000000) "ms")
      (d.subsecond / 1000000 * TimeUnit.millisecond.nanos) := by
    refine signPart_addUp ?_ rfl
    rintro _ ⟨⟩
    exact Nat.lt_of_le_of_lt (Nat.div_mul_le_self _ _) below
  have micros : AddUp (signPart (d.subsecond / 1000 % 1000) "us")
      (d.subsecond / 1000 % 1000 * TimeUnit.microsecond.nanos) := by
    refine signPart_addUp ?_ rfl
    rintro _ ⟨⟩
    exact Nat.lt_trans (Nat.mul_lt_mul_of_pos_right (few _) (by decide)) (by decide)
  have single : AddUp (signPart (d.subsecond % 1000) "ns")
      (d.subsecond % 1000 * TimeUnit.nanosecond.nanos) := by
    refine signPart_addUp ?_ rfl
    rintro _ ⟨⟩
    exact Nat.lt_trans (Nat.mul_lt_mul_of_pos_right (few _) (by decide)) (by decide)
  unfold parts
  refine AddUp.of_eq (((((((((years _).append (months _)).append (days _)).append (hours _)).append
    (minutes _)).append (seconds _)).append millis).append micros).append single) ?_
  have sum := d.nanos_eq
  simp only [TimeUnit.nanos, TimeUnit.scale, yearSeconds, monthSeconds, daySeconds, nanosPerSecond]
    at *
  omega

end Resilience.Duration
