import Resilience.Decimal
import Resilience.Proofs.Binary64
/-! # The size of the shortest decimal

The decimal found for a double has digits and is no larger than the numbers that round to the
double.
-/
namespace Resilience.Decimal

open Binary64

def Shortest.value (d : Shortest) : ℚ := d.digits * 10 ^ d.exponent

def upper (x : Binary64) : ℚ := (x.mantissa + 1 / 2) * 2 ^ x.exponent

theorem cast_tenTo (n : ℕ) : ((tenTo n : ℕ) : ℚ) = 10 ^ n := by
  change ((10 ^ n : ℕ) : ℚ) = 10 ^ n
  push_cast
  rfl

theorem tenTo_pos (n : ℕ) : 0 < tenTo n := Nat.pow_pos (by omega)

theorem tenTo_mono {m n : ℕ} (h : m ≤ n) : tenTo m ≤ tenTo n :=
  Nat.pow_le_pow_right (by omega) h

theorem value_le_upper {x : Binary64} {d : ℕ} {e : ℤ} (h : roundsTo x d e = true) :
    Shortest.value ⟨d, e⟩ ≤ upper x := by
  have bound : 4 * d * tenTo e.toNat * twoTo (-x.exponent).toNat ≤
      (4 * x.mantissa + 2) * (tenTo (-e).toNat * twoTo x.exponent.toNat) := by
    unfold roundsTo interval at h
    dsimp only at h
    split at h
    · rw [Bool.and_eq_true, decide_eq_true_eq, decide_eq_true_eq] at h
      exact h.2
    · rw [Bool.and_eq_true, decide_eq_true_eq, decide_eq_true_eq] at h
      exact h.2.le
  have cast : (4 * d * 10 ^ e.toNat * 2 ^ (-x.exponent).toNat : ℚ) ≤
      (4 * x.mantissa + 2) * (10 ^ (-e).toNat * 2 ^ x.exponent.toNat) := by
    rw [← cast_tenTo, ← cast_tenTo, ← cast_twoTo, ← cast_twoTo]
    exact_mod_cast bound
  rw [Shortest.value, upper, zpow_toNat, zpow_toNat, ← mul_div_assoc, ← mul_div_assoc,
    div_le_div_iff₀ (by positivity) (by positivity)]
  nlinarith

theorem onGrid?_spec {x : Binary64} {e : ℤ} {d : ℕ} (h : onGrid? x e = some d) :
    d ≠ 0 ∧ roundsTo x d e = true := by
  unfold onGrid? at h
  dsimp only at h
  generalize x.num * tenTo (-e).toNat / (x.den * tenTo e.toNat) = low at h
  split at h
  · next lowHolds highHolds =>
    rw [Bool.and_eq_true, decide_eq_true_eq] at lowHolds
    split_ifs at h <;> cases h
    all_goals first | exact ⟨lowHolds.1.ne', lowHolds.2⟩ | exact ⟨by omega, highHolds⟩
  · next lowHolds _ =>
    rw [Bool.and_eq_true, decide_eq_true_eq] at lowHolds
    cases h
    exact ⟨lowHolds.1.ne', lowHolds.2⟩
  · next highHolds =>
    cases h
    exact ⟨by omega, highHolds⟩
  · cases h

theorem magnitude_le_upper (x : Binary64) : x.magnitude ≤ upper x := by
  unfold magnitude upper
  gcongr
  linarith

/-- What the search gives, from a grid fine enough that a point of it lies below the double. -/
theorem search_spec {x : Binary64} (fuel : ℕ) {e : ℤ} (h : (10 : ℚ) ^ (e - fuel) ≤ x.magnitude) :
    (search x fuel e).digits ≠ 0 ∧ e - fuel ≤ (search x fuel e).exponent ∧
      (search x fuel e).value ≤ upper x := by
  induction fuel generalizing e with
  | zero =>
    rw [Nat.cast_zero, sub_zero] at h
    have below : x.den * tenTo e.toNat ≤ x.num * tenTo (-e).toNat := by
      rw [← num_div_den, zpow_toNat, div_le_div_iff₀ (by positivity)
        (by exact_mod_cast x.den_pos), ← cast_tenTo, ← cast_tenTo] at h
      have whole : tenTo e.toNat * x.den ≤ x.num * tenTo (-e).toNat := by exact_mod_cast h
      rwa [Nat.mul_comm] at whole
    have pos : 0 < x.den * tenTo e.toNat := Nat.mul_pos x.den_pos (tenTo_pos _)
    rw [search]
    refine ⟨(Nat.div_pos below pos).ne', by simp, le_trans ?_ (magnitude_le_upper x)⟩
    have floor := Nat.div_mul_le_self (x.num * tenTo (-e).toNat) (x.den * tenTo e.toNat)
    have cast : ((x.num * tenTo (-e).toNat / (x.den * tenTo e.toNat) : ℕ) : ℚ) *
        (x.den * 10 ^ e.toNat) ≤ x.num * 10 ^ (-e).toNat := by
      rw [← cast_tenTo, ← cast_tenTo]
      exact_mod_cast floor
    rw [Shortest.value, zpow_toNat, ← mul_div_assoc, ← num_div_den,
      div_le_div_iff₀ (by positivity) (by exact_mod_cast x.den_pos)]
    linarith
  | succ fuel ih =>
    rw [search]
    cases grid : onGrid? x e with
    | some d =>
      obtain ⟨nonzero, rounds⟩ := onGrid?_spec grid
      exact ⟨nonzero, by dsimp only; omega, value_le_upper rounds⟩
    | none =>
      have finer : e - (fuel + 1 : ℕ) = e - 1 - fuel := by
        push_cast
        ring
      rw [finer] at h ⊢
      exact ih h

theorem strip_spec (fuel : ℕ) (d : Shortest) : (strip fuel d).value = d.value ∧
    d.exponent ≤ (strip fuel d).exponent ∧ (d.digits ≠ 0 → (strip fuel d).digits ≠ 0) := by
  induction fuel generalizing d with
  | zero => exact ⟨rfl, le_rfl, id⟩
  | succ fuel ih =>
    rw [strip]
    split
    · next ends =>
      obtain ⟨value, exponent, digits⟩ := ih ⟨d.digits / 10, d.exponent + 1⟩
      refine ⟨value.trans ?_, by dsimp only at exponent; omega, fun _ => digits ?_⟩
      · have tens : d.digits = d.digits / 10 * 10 := by omega
        have cast : (d.digits : ℚ) = (d.digits / 10 : ℕ) * 10 := by exact_mod_cast tens
        rw [Shortest.value, Shortest.value, zpow_add₀ (by norm_num), zpow_one, cast]
        ring
      · dsimp only
        omega
    · exact ⟨rfl, le_rfl, id⟩

/-- A power of ten below a power of two, told from one comparison of the two bases. -/
theorem ten_zpow_le {p q : ℕ} (hp : p ≠ 0) {n m : ℤ} (h : q * n ≤ p * m)
    (base : 0 ≤ n ∧ 10 ^ p ≤ 2 ^ q ∨ n ≤ 0 ∧ 2 ^ q ≤ 10 ^ p) : (10 : ℚ) ^ n ≤ 2 ^ m := by
  refine (pow_le_pow_iff_left₀ (by positivity) (by positivity) hp).mp ?_
  have raised : ((10 : ℚ) ^ n) ^ p = ((10 : ℚ) ^ p) ^ n := by
    rw [← zpow_natCast, ← zpow_natCast, ← zpow_mul, ← zpow_mul, mul_comm]
  calc ((10 : ℚ) ^ n) ^ p = ((10 : ℚ) ^ p) ^ n := raised
    _ ≤ ((2 : ℚ) ^ q) ^ n := by
      rcases base with ⟨sign, le⟩ | ⟨sign, le⟩
      · exact zpow_le_zpow_left₀ sign (by positivity) (by exact_mod_cast le)
      · rw [← neg_neg n, zpow_neg, zpow_neg ((2 : ℚ) ^ q)]
        exact inv_anti₀ (by positivity)
          (zpow_le_zpow_left₀ (by omega) (by positivity) (by exact_mod_cast le))
    _ = 2 ^ (q * n) := by rw [← zpow_natCast, ← zpow_mul]
    _ ≤ 2 ^ (p * m) := zpow_le_zpow_right₀ (by norm_num) h
    _ = ((2 : ℚ) ^ m) ^ p := by rw [← zpow_natCast, ← zpow_mul, mul_comm]

/-- The grids that are tried reach below the quotient. -/
theorem leadingExponent_spec {num den : ℕ} (hn : num ≠ 0) (hd : 0 < den)
    (low : den.log2 ≤ 1074) (high : num.log2 ≤ 1024) :
    (10 : ℚ) ^ (leadingExponent num den - (18 : ℕ)) ≤ num / den ∧
      -326 ≤ leadingExponent num den := by
  have reached : ∀ p : ℤ, den * tenTo p.toNat ≤ num * tenTo (-p).toNat →
      (10 : ℚ) ^ (p - (18 : ℕ)) ≤ num / den := by
    intro p h
    have cast : (den * 10 ^ p.toNat : ℚ) ≤ num * 10 ^ (-p).toNat := by
      rw [← cast_tenTo, ← cast_tenTo]
      exact_mod_cast h
    refine le_trans (zpow_le_zpow_right₀ (by norm_num) (show p - (18 : ℕ) ≤ p by omega)) ?_
    rw [zpow_toNat, div_le_div_iff₀ (by positivity) (by exact_mod_cast hd)]
    linarith
  have quotient := two_zpow_le_div hn hd
  unfold leadingExponent
  dsimp only
  generalize guessed : ((num.log2 : ℤ) - den.log2) * 30103 / 100000 = guess
  split
  · next h =>
    exact ⟨reached _ (by simpa using h), by omega⟩
  · split
    · next h =>
      exact ⟨reached _ (by simpa using h), by omega⟩
    · split
      · next h =>
        exact ⟨reached _ (by simpa using h), by omega⟩
      · refine ⟨le_trans ?_ quotient, by omega⟩
        rcases le_total 0 (guess - 2 - (18 : ℕ)) with sign | sign
        · exact ten_zpow_le (p := 3) (q := 10) (by norm_num) (by omega)
            (.inl ⟨sign, by norm_num⟩)
        · exact ten_zpow_le (p := 10) (q := 33) (by norm_num) (by omega)
            (.inr ⟨sign, by norm_num⟩)

/-- The decimal of a double other than zero. -/
theorem shortest_spec {x : Binary64} (finite : x.Finite) (nonzero : x.mantissa ≠ 0) :
    (shortest x).digits ≠ 0 ∧ -344 ≤ (shortest x).exponent ∧ (shortest x).value ≤ upper x := by
  have hn : x.num ≠ 0 := Nat.mul_ne_zero nonzero (twoTo_pos _).ne'
  have low : x.den.log2 ≤ 1074 := by
    have den : x.den = 2 ^ (-x.exponent).toNat := rfl
    have := finite.low
    rw [den, Nat.log2_two_pow]
    unfold minExponent at this
    omega
  have high : x.num.log2 ≤ 1024 := by
    have small : x.num < 2 ^ (53 + x.exponent.toNat) := by
      rw [Nat.pow_add]
      exact Nat.mul_lt_mul_of_pos_right finite.mantissa (twoTo_pos _)
    have := (Nat.log2_lt hn).mpr small
    have := finite.high
    unfold maxExponent at this
    omega
  obtain ⟨reach, least⟩ := leadingExponent_spec hn x.den_pos low high
  rw [num_div_den] at reach
  obtain ⟨digits, exponent, value⟩ := search_spec 18 reach
  rw [shortest, if_neg nonzero]
  obtain ⟨kept, rises, stays⟩ := strip_spec 20 (search x 18 (leadingExponent x.num x.den))
  exact ⟨stays digits, by omega, kept ▸ value⟩

end Resilience.Decimal
