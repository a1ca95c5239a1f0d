import Mathlib.Algebra.Order.Field.Power
import Mathlib.Algebra.Order.Field.Rat
import Mathlib.Tactic.FieldSimp
import Mathlib.Tactic.GCongr
import Mathlib.Tactic.Linarith
import Mathlib.Tactic.Positivity
import Mathlib.Tactic.Ring
import Resilience.Binary64
/-! # Rounding to doubles

Rounding keeps the order of quotients, so that whatever is no larger than a quotient within range
is within range itself.
-/
namespace Resilience.Binary64

def magnitude (x : Binary64) : ℚ := x.mantissa * 2 ^ x.exponent

structure Finite (x : Binary64) : Prop where
  mantissa : x.mantissa < 2 ^ 53
  low : minExponent ≤ x.exponent
  high : x.exponent ≤ maxExponent

theorem zpow_toNat (b : ℚ) (e : ℤ) : b ^ e = b ^ e.toNat / b ^ (-e).toNat := by
  rcases le_total 0 e with h | h
  · have back : (e.toNat : ℤ) = e := Int.toNat_of_nonneg h
    rw [show (-e).toNat = 0 by omega, pow_zero, div_one, ← zpow_natCast, back]
  · have back : ((-e).toNat : ℤ) = -e := Int.toNat_of_nonneg (by omega)
    rw [show e.toNat = 0 by omega, pow_zero, one_div, ← zpow_natCast, back, zpow_neg, inv_inv]

theorem cast_twoTo (n : ℕ) : ((twoTo n : ℕ) : ℚ) = 2 ^ n := by
  change ((2 ^ n : ℕ) : ℚ) = 2 ^ n
  push_cast
  rfl

theorem twoTo_pos (n : ℕ) : 0 < twoTo n := Nat.pow_pos (by omega)

theorem den_pos (x : Binary64) : 0 < x.den := twoTo_pos _

theorem num_div_den (x : Binary64) : (x.num : ℚ) / x.den = x.magnitude := by
  rw [magnitude, zpow_toNat, num, den, Nat.cast_mul, cast_twoTo, cast_twoTo,
    mul_div_assoc]

theorem roundQuotient_mono {a b c d : ℕ} (hb : 0 < b) (hd : 0 < d) (h : a * d ≤ c * b) :
    roundQuotient a b ≤ roundQuotient c d := by
  have whole : a / b ≤ c / d := by
    rw [Nat.le_div_iff_mul_le hd]
    refine Nat.le_of_mul_le_mul_right ?_ hb
    calc a / b * d * b = a / b * b * d := by ring
      _ ≤ a * d := Nat.mul_le_mul_right d (Nat.div_mul_le_self a b)
      _ ≤ c * b := h
  have low : roundQuotient a b ≤ a / b + 1 := by
    unfold roundQuotient
    dsimp only
    split_ifs <;> omega
  have high : c / d ≤ roundQuotient c d := by
    unfold roundQuotient
    dsimp only
    split_ifs <;> omega
  rcases Nat.lt_or_ge (a / b) (c / d) with less | more
  · omega
  -- on the same whole number the remainders decide
  have same : a / b = c / d := Nat.le_antisymm whole more
  have rest : a % b * d ≤ c % d * b := by
    have ha := Nat.div_add_mod a b
    have hc := Nat.div_add_mod c d
    rw [← ha, ← hc, same, add_mul, add_mul] at h
    have := Nat.mul_right_comm b (c / d) d
    have := Nat.mul_comm d (c / d)
    nlinarith
  have up : b ≤ 2 * (a % b) → d ≤ 2 * (c % d) := by
    intro half
    refine Nat.le_of_mul_le_mul_right ?_ hb
    nlinarith
  have above : b < 2 * (a % b) → d < 2 * (c % d) := by
    intro half
    refine Nat.lt_of_mul_lt_mul_right (a := b) ?_
    nlinarith
  unfold roundQuotient
  dsimp only
  rw [same]
  split_ifs <;> omega

theorem roundQuotient_whole {b : ℕ} (hb : 0 < b) (n : ℕ) : roundQuotient (n * b) b = n := by
  rw [roundQuotient, Nat.mul_mod_left, Nat.mul_div_cancel n hb, if_pos (by omega)]

section Fitted

variable {a b c d : ℕ}

theorem scaleDown_pos (hb : 0 < b) (e : ℤ) : 0 < (scaleDown a b e).2 :=
  Nat.mul_pos hb (twoTo_pos _)

theorem scaleDown_div (a b : ℕ) (e : ℤ) :
    ((scaleDown a b e).1 : ℚ) / (scaleDown a b e).2 = a / b / 2 ^ e := by
  rw [zpow_toNat, scaleDown]
  push_cast [cast_twoTo]
  field_simp

def rounded (a b : ℕ) (e : ℤ) : ℕ := roundQuotient (scaleDown a b e).1 (scaleDown a b e).2

theorem rounded_mono (hb : 0 < b) (hd : 0 < d) (h : (a : ℚ) / b ≤ c / d) (e : ℤ) :
    rounded a b e ≤ rounded c d e := by
  have pb := scaleDown_pos (a := a) hb e
  have pd := scaleDown_pos (a := c) hd e
  refine roundQuotient_mono pb pd ?_
  have scaled : ((scaleDown a b e).1 : ℚ) / (scaleDown a b e).2 ≤
      (scaleDown c d e).1 / (scaleDown c d e).2 := by
    rw [scaleDown_div, scaleDown_div]
    gcongr
  rw [div_le_div_iff₀ (by exact_mod_cast pb) (by exact_mod_cast pd)] at scaled
  exact_mod_cast scaled

theorem le_rounded (hb : 0 < b) {n : ℕ} {e : ℤ} (h : n * 2 ^ e ≤ (a : ℚ) / b) :
    n ≤ rounded a b e := by
  have pb := scaleDown_pos (a := a) hb e
  rw [rounded, ← roundQuotient_whole (Nat.one_pos) n]
  refine roundQuotient_mono Nat.one_pos pb ?_
  have scaled : (n : ℚ) ≤ (scaleDown a b e).1 / (scaleDown a b e).2 := by
    rw [scaleDown_div, le_div_iff₀ (by positivity)]
    exact h
  rw [le_div_iff₀ (by exact_mod_cast pb)] at scaled
  simpa using (by exact_mod_cast scaled : n * (scaleDown a b e).2 ≤ (scaleDown a b e).1)

theorem rounded_le (hb : 0 < b) {n : ℕ} {e : ℤ} (h : (a : ℚ) / b ≤ n * 2 ^ e) :
    rounded a b e ≤ n := by
  have pb := scaleDown_pos (a := a) hb e
  rw [rounded, ← roundQuotient_whole (Nat.one_pos) n]
  refine roundQuotient_mono pb Nat.one_pos ?_
  have scaled : ((scaleDown a b e).1 : ℚ) / (scaleDown a b e).2 ≤ n := by
    rw [scaleDown_div, div_le_iff₀ (by positivity)]
    exact h
  rw [div_le_iff₀ (by exact_mod_cast pb)] at scaled
  simpa using (by exact_mod_cast scaled : (scaleDown a b e).1 ≤ n * (scaleDown a b e).2)

def fitted (a b : ℕ) : ℤ :=
  let guess : ℤ := (a.log2 : ℤ) - (b.log2 : ℤ) - 53
  if (scaleDown a b guess).1 / (scaleDown a b guess).2 < twoTo 53 then guess else guess + 1

/-- A quotient lies above a power of two that its binary digits tell. -/
theorem two_zpow_le_div (ha : a ≠ 0) (hb : 0 < b) :
    (2 : ℚ) ^ ((a.log2 : ℤ) - b.log2 - 1) ≤ a / b := by
  have low : (2 : ℚ) ^ (a.log2 : ℤ) ≤ a := by exact_mod_cast Nat.log2_self_le ha
  have high : (b : ℚ) ≤ 2 ^ ((b.log2 : ℤ) + 1) := by
    exact_mod_cast (Nat.lt_log2_self (n := b)).le
  rw [le_div_iff₀ (by exact_mod_cast hb)]
  calc (2 : ℚ) ^ ((a.log2 : ℤ) - b.log2 - 1) * b
      ≤ 2 ^ ((a.log2 : ℤ) - b.log2 - 1) * 2 ^ ((b.log2 : ℤ) + 1) := by gcongr
    _ = 2 ^ (a.log2 : ℤ) := by rw [← zpow_add₀ two_ne_zero]; congr 1; ring
    _ ≤ a := low

theorem div_lt_two_zpow (hb : 0 < b) : (a : ℚ) / b < 2 ^ ((a.log2 : ℤ) - b.log2 + 1) := by
  have high : (a : ℚ) < 2 ^ ((a.log2 : ℤ) + 1) := by exact_mod_cast Nat.lt_log2_self (n := a)
  have low : (2 : ℚ) ^ (b.log2 : ℤ) ≤ b := by exact_mod_cast Nat.log2_self_le hb.ne'
  rw [div_lt_iff₀ (by exact_mod_cast hb)]
  calc (a : ℚ) < 2 ^ ((a.log2 : ℤ) + 1) := high
    _ = 2 ^ ((a.log2 : ℤ) - b.log2 + 1) * 2 ^ (b.log2 : ℤ) := by
      rw [← zpow_add₀ two_ne_zero]; congr 1; ring
    _ ≤ 2 ^ ((a.log2 : ℤ) - b.log2 + 1) * b := by gcongr

theorem fitted_bounds (ha : a ≠ 0) (hb : 0 < b) :
    2 ^ (52 : ℤ) * 2 ^ fitted a b ≤ (a : ℚ) / b ∧ (a : ℚ) / b < 2 ^ (53 : ℤ) * 2 ^ fitted a b := by
  -- the guess is right or too small by one
  have guessed : (2 : ℚ) ^ (52 + ((a.log2 : ℤ) - b.log2 - 53)) ≤ (a : ℚ) / b ∧
      (a : ℚ) / b < 2 ^ (54 + ((a.log2 : ℤ) - b.log2 - 53)) := by
    constructor
    · convert two_zpow_le_div ha hb using 2
      ring
    · convert div_lt_two_zpow (a := a) hb using 2
      ring
  have pos : ∀ e : ℤ, (0 : ℚ) < 2 ^ e := fun e => by positivity
  unfold fitted
  dsimp only
  generalize (a.log2 : ℤ) - b.log2 - 53 = guess at guessed ⊢
  have quotient := scaleDown_div a b guess
  have qd : (0 : ℚ) < (scaleDown a b guess).2 := by exact_mod_cast scaleDown_pos hb guess
  rw [zpow_add₀ two_ne_zero, zpow_add₀ two_ne_zero] at guessed
  split
  · next small =>
    refine ⟨guessed.1, ?_⟩
    rw [Nat.div_lt_iff_lt_mul (scaleDown_pos hb guess)] at small
    rw [← div_lt_iff₀ (pos guess), ← quotient, div_lt_iff₀ qd]
    have cast : ((scaleDown a b guess).1 : ℚ) < (twoTo 53 : ℕ) * (scaleDown a b guess).2 := by
      exact_mod_cast small
    rwa [cast_twoTo] at cast
  · next large =>
    have large := Nat.le_of_not_lt large
    rw [Nat.le_div_iff_mul_le (scaleDown_pos hb guess)] at large
    have cast : ((twoTo 53 : ℕ) : ℚ) * (scaleDown a b guess).2 ≤ (scaleDown a b guess).1 := by
      exact_mod_cast large
    rw [cast_twoTo, ← le_div_iff₀ qd, quotient, le_div_iff₀ (pos guess)] at cast
    rw [zpow_add₀ two_ne_zero guess 1, zpow_one]
    constructor
    · calc (2 : ℚ) ^ (52 : ℤ) * (2 ^ guess * 2) = 2 ^ 53 * 2 ^ guess := by ring
        _ ≤ a / b := cast
    · calc (a : ℚ) / b < 2 ^ (54 : ℤ) * 2 ^ guess := guessed.2
        _ = 2 ^ (53 : ℤ) * (2 ^ guess * 2) := by ring

def grid (a b : ℕ) : ℤ := max (fitted a b) minExponent

theorem nearest_eq (ha : a ≠ 0) :
    nearest a b = if rounded a b (grid a b) = 2 ^ 53 then (2 ^ 52, grid a b + 1)
      else (rounded a b (grid a b), grid a b) := by
  rw [nearest, if_neg ha]
  rfl

/-- What rounding gives: the value on the grid, with a mantissa of full length unless the exponent
is the smallest. -/
structure Rounds (a b : ℕ) (p : ℕ × ℤ) : Prop where
  value : (p.1 : ℚ) * 2 ^ p.2 = rounded a b (grid a b) * 2 ^ grid a b
  mantissa : p.1 < 2 ^ 53
  low : minExponent ≤ p.2
  full : p.2 = minExponent ∨ 2 ^ 52 ≤ p.1

theorem le_rounded_grid (ha : a ≠ 0) (hb : 0 < b) (h : minExponent < grid a b) :
    2 ^ 52 ≤ rounded a b (grid a b) := by
  have same : grid a b = fitted a b := by
    unfold grid at h ⊢
    omega
  refine le_rounded hb ?_
  rw [same]
  push_cast
  exact (fitted_bounds ha hb).1

theorem rounded_grid_le (ha : a ≠ 0) (hb : 0 < b) : rounded a b (grid a b) ≤ 2 ^ 53 := by
  refine rounded_le hb (le_trans (fitted_bounds ha hb).2.le ?_)
  push_cast
  have wider : fitted a b ≤ grid a b := le_max_left _ _
  have := zpow_le_zpow_right₀ (a := (2 : ℚ)) (by norm_num) wider
  change (2 : ℚ) ^ 53 * _ ≤ 2 ^ 53 * _
  gcongr

theorem rounds_nearest (ha : a ≠ 0) (hb : 0 < b) : Rounds a b (nearest a b) := by
  have low : minExponent ≤ grid a b := le_max_right _ _
  have high := rounded_grid_le ha hb
  rw [nearest_eq ha]
  split
  · next carry =>
    refine ⟨?_, by norm_num, by omega, .inr (by norm_num)⟩
    rw [carry, zpow_add₀ two_ne_zero, zpow_one]
    push_cast
    ring
  · next stays =>
    refine ⟨rfl, by omega, low, ?_⟩
    rcases lt_or_eq_of_le low with less | same
    · exact .inr (le_rounded_grid ha hb less)
    · exact .inl same.symm

theorem fitted_le (ha : a ≠ 0) (hc : c ≠ 0) (hb : 0 < b) (hd : 0 < d)
    (h : (a : ℚ) / b ≤ c / d) : fitted a b ≤ fitted c d := by
  have low := (fitted_bounds ha hb).1
  have high := (fitted_bounds hc hd).2
  rw [← zpow_add₀ two_ne_zero] at low high
  have := (zpow_lt_zpow_iff_right₀ (a := (2 : ℚ)) (by norm_num)).mp
    (lt_of_le_of_lt (low.trans h) high)
  omega

theorem nearest_mono (ha : a ≠ 0) (hc : c ≠ 0) (hb : 0 < b) (hd : 0 < d)
    (h : (a : ℚ) / b ≤ c / d) :
    ((nearest a b).1 : ℚ) * 2 ^ (nearest a b).2 ≤ (nearest c d).1 * 2 ^ (nearest c d).2 := by
  rw [(rounds_nearest ha hb).value, (rounds_nearest hc hd).value]
  have order : grid a b ≤ grid c d := max_le_max_right _ (fitted_le ha hc hb hd h)
  rcases lt_or_eq_of_le order with less | same
  · -- a coarser grid begins where a finer one ends
    have top : ((rounded a b (grid a b) : ℕ) : ℚ) ≤ 2 ^ 53 := by
      exact_mod_cast rounded_grid_le ha hb
    have bottom : (2 : ℚ) ^ 52 ≤ (rounded c d (grid c d) : ℕ) := by
      exact_mod_cast le_rounded_grid hc hd (lt_of_le_of_lt (le_max_right _ _) less)
    have step := zpow_le_zpow_right₀ (a := (2 : ℚ)) (by norm_num)
      (show grid a b + 1 ≤ grid c d by omega)
    rw [zpow_add₀ two_ne_zero, zpow_one] at step
    calc ((rounded a b (grid a b) : ℕ) : ℚ) * 2 ^ grid a b ≤ 2 ^ 53 * 2 ^ grid a b := by gcongr
      _ = 2 ^ 52 * (2 ^ grid a b * 2) := by ring
      _ ≤ 2 ^ 52 * 2 ^ grid c d := by gcongr
      _ ≤ (rounded c d (grid c d) : ℕ) * 2 ^ grid c d := by gcongr
  · rw [← same]
    have := rounded_mono hb hd h (grid a b)
    gcongr

end Fitted

variable {a b c d : ℕ} {negative sign : Bool} {x y w : Binary64}

theorem ofRatio?_eq_some (h : ofRatio? negative a b = some x) :
    (nearest a b).2 ≤ maxExponent ∧ x = ⟨negative, (nearest a b).1, (nearest a b).2⟩ := by
  unfold ofRatio? at h
  dsimp only at h
  split at h
  · cases h
  · next fits =>
    cases h
    exact ⟨not_lt.mp fits, rfl⟩

theorem finite_ofRatio? (hb : 0 < b) (h : ofRatio? negative a b = some x) : Finite x := by
  obtain ⟨high, rfl⟩ := ofRatio?_eq_some h
  by_cases ha : a = 0
  · subst ha
    exact ⟨by norm_num [nearest], by simp [nearest], high⟩
  · have rounds := rounds_nearest ha hb
    exact ⟨rounds.mantissa, rounds.low, high⟩

theorem finite_zero (negative : Bool) : Finite (zero negative) :=
  ⟨by norm_num [zero], by simp [zero], by simp [zero, minExponent, maxExponent]⟩

theorem magnitude_zero (negative : Bool) : (zero negative).magnitude = 0 := by
  simp [magnitude, zero]

theorem magnitude_nonneg (x : Binary64) : 0 ≤ x.magnitude := by
  unfold magnitude
  positivity

theorem Finite.magnitude_lt (h : Finite x) : x.magnitude < 2 ^ (1024 : ℤ) := by
  have mantissa : (x.mantissa : ℚ) < 2 ^ (53 : ℤ) := by exact_mod_cast h.mantissa
  have power := zpow_le_zpow_right₀ (a := (2 : ℚ)) (by norm_num) h.high
  calc x.magnitude < 2 ^ (53 : ℤ) * 2 ^ x.exponent := by
        unfold magnitude
        gcongr
    _ ≤ 2 ^ (53 : ℤ) * 2 ^ maxExponent := by gcongr
    _ = 2 ^ (1024 : ℤ) := by rw [← zpow_add₀ two_ne_zero]; rfl

/-- What is no larger than a quotient within range is within range, and rounded no higher. -/
theorem ofRatio?_mono (negative : Bool) (hb : 0 < b) (hd : 0 < d) (h : (a : ℚ) / b ≤ c / d)
    (found : ofRatio? sign c d = some y) :
    ∃ x, ofRatio? negative a b = some x ∧ x.magnitude ≤ y.magnitude := by
  by_cases ha : a = 0
  · subst ha
    exact ⟨zero negative, rfl, magnitude_zero negative ▸ magnitude_nonneg y⟩
  have hc : c ≠ 0 := by
    rintro rfl
    rw [Nat.cast_zero, zero_div, div_le_iff₀ (by exact_mod_cast hb), zero_mul] at h
    exact ha (by exact_mod_cast le_antisymm h (by positivity))
  have finite := finite_ofRatio? hd found
  obtain ⟨-, rfl⟩ := ofRatio?_eq_some found
  have order := nearest_mono ha hc hb hd h
  have rounds := rounds_nearest ha hb
  have fits : (nearest a b).2 ≤ maxExponent := by
    by_contra large
    have full : 2 ^ 52 ≤ (nearest a b).1 := by
      refine rounds.full.resolve_left fun same => large ?_
      rw [same]
      decide
    have cast : (2 : ℚ) ^ (52 : ℤ) ≤ (nearest a b).1 := by exact_mod_cast full
    have power := zpow_le_zpow_right₀ (a := (2 : ℚ)) (by norm_num)
      (show maxExponent + 1 ≤ (nearest a b).2 by omega)
    refine absurd finite.magnitude_lt (not_lt.mpr (le_trans ?_ order))
    calc (2 : ℚ) ^ (1024 : ℤ) = 2 ^ (52 : ℤ) * 2 ^ (maxExponent + 1) := by
          rw [← zpow_add₀ two_ne_zero]; rfl
      _ ≤ (nearest a b).1 * 2 ^ (nearest a b).2 := by gcongr
  refine ⟨⟨negative, (nearest a b).1, (nearest a b).2⟩, ?_, order⟩
  unfold ofRatio?
  dsimp only
  rw [if_neg (not_lt.mpr fits)]

theorem num_mul_div (x y : Binary64) :
    ((x.num * y.num : ℕ) : ℚ) / (x.den * y.den : ℕ) = x.magnitude * y.magnitude := by
  rw [← num_div_den, ← num_div_den, Nat.cast_mul, Nat.cast_mul, div_mul_div_comm]

theorem scaleUp?_mono {u v : Binary64} (hx : x.magnitude ≤ u.magnitude)
    (hy : y.magnitude ≤ v.magnitude) (found : u.scaleUp? v = some w) :
    ∃ z, x.scaleUp? y = some z ∧ z.magnitude ≤ w.magnitude := by
  refine ofRatio?_mono _ (Nat.mul_pos x.den_pos y.den_pos) (Nat.mul_pos u.den_pos v.den_pos) ?_ found
  rw [num_mul_div, num_mul_div]
  exact mul_le_mul hx hy y.magnitude_nonneg u.magnitude_nonneg

end Resilience.Binary64
