import Resilience.Proofs.Json.Numeral
import Resilience.Proofs.Json.Range
/-! # Numbers written and read

Every number is written as a numeral, and every number that was read once can be read again.
-/
namespace Resilience.Json

open Binary64
open Decimal (digits valueFrom Shortest)

namespace Numeral

def positional (negative : Bool) (d : Shortest) : Numeral :=
  let ds := digits d.digits
  if 0 ≤ d.exponent then ⟨negative, ds ++ List.replicate d.exponent.toNat 0, some [0], none⟩
  else
    let places := (-d.exponent).toNat
    if places < ds.length then
      ⟨negative, ds.take (ds.length - places), some (ds.drop (ds.length - places)), none⟩
    else ⟨negative, [0], some (List.replicate (places - ds.length) 0 ++ ds), none⟩

def leading (d : Shortest) : ℤ := d.exponent + ((digits d.digits).length - 1 : ℕ)

def scientific (negative : Bool) (d : Shortest) : Numeral :=
  ⟨negative, (digits d.digits).take 1,
    if (digits d.digits).length = 1 then none else some ((digits d.digits).drop 1),
    some (decide (leading d < 0), digits (leading d).natAbs)⟩

def ofNumber : Number → Numeral
  | .int i => ⟨decide (i < 0), digits i.natAbs, none, none⟩
  | .float x =>
    let d := Decimal.shortest x
    if x.isZero || (-5 ≤ leading d && leading d < 16) then positional x.negative d
    else scientific x.negative d

variable {negative : Bool} {d : Shortest}

/-- A zero has no power of ten. -/
def Regular (d : Shortest) : Prop := d.digits = 0 → d.exponent = 0

theorem length_digitChars (n : ℕ) : (Decimal.digitChars n).length = (digits n).length := by
  rw [Decimal.digitChars_eq, List.length_map]

theorem chars_positional : (positional negative d).chars =
    (if negative then ['-'] else []) ++ Decimal.positional d := by
  unfold positional Decimal.positional
  dsimp only
  rw [length_digitChars, Decimal.digitChars_eq]
  have zero : Nat.digitChar 0 = '0' := rfl
  split_ifs <;>
    simp [chars, fractionChars, powerChars, Decimal.zeros, List.map_take, List.map_drop, *]

theorem chars_scientific : (scientific negative d).chars =
    (if negative then ['-'] else []) ++ Decimal.scientific d := by
  unfold scientific Decimal.scientific
  dsimp only
  rw [length_digitChars, Decimal.digitChars_eq, Decimal.digitChars_eq]
  change _ = _ ++ (_ ++ 'e' :: (if leading d < 0 then '-' else '+') ::
    (digits (leading d).natAbs).map Nat.digitChar)
  obtain ⟨e, ds, shape⟩ := List.exists_cons_of_ne_nil (Decimal.digits_ne_nil d.digits)
  rw [shape]
  cases ds with
  | nil => simp [chars, fractionChars, powerChars]
  | cons e es => simp [chars, fractionChars, powerChars]

theorem chars_ofNumber (n : Number) : (ofNumber n).chars = n.chars := by
  cases n with
  | int i =>
    by_cases sign : i < 0 <;>
      simp [ofNumber, chars, Number.chars, intChars, fractionChars, powerChars, sign,
        Decimal.digitChars_eq]
  | float x =>
    have same : (Decimal.shortest x).exponent +
        ((Decimal.digitChars (Decimal.shortest x).digits).length - 1 : ℕ) =
          leading (Decimal.shortest x) := by
      rw [length_digitChars, leading]
    rw [ofNumber, Number.chars, floatChars, same]
    split
    · rw [chars_positional]
      cases x.negative <;> rfl
    · rw [chars_scientific]
      cases x.negative <;> rfl

theorem exponent_none {n : Numeral} (h : n.power = none) : n.exponent = 0 := by
  rw [exponent, h]

theorem digits_small (d : Shortest) : ∀ e ∈ digits d.digits, e < 10 := Decimal.digits_lt d.digits

theorem areDigits_digits (n : ℕ) : AreDigits (digits n) :=
  ⟨Decimal.digits_ne_nil n, Decimal.digits_lt n⟩

theorem wellformed_positional (h : Regular d) : (positional negative d).Wellformed := by
  have some_digit := List.length_pos_iff.mpr (Decimal.digits_ne_nil d.digits)
  unfold positional
  dsimp only
  split_ifs with whole inside
  · refine ⟨fun e he => ?_, ?_, ?_, by simp⟩
    · rcases List.mem_append.mp he with he | he
      · exact digits_small d e he
      · rw [List.eq_of_mem_replicate he]
        omega
    · by_cases zero : d.digits = 0
      · simp [h zero, Decimal.digits_leads]
      · obtain ⟨e, es, shape, leading⟩ := Decimal.digits_shape zero
        rw [shape]
        exact .of_head leading _
    · rintro ds ⟨⟩
      simp [AreDigits]
  · refine ⟨fun e he => digits_small d e (List.mem_of_mem_take he), ?_, ?_, by simp⟩
    · obtain ⟨k, length⟩ : ∃ k, (digits d.digits).length - (-d.exponent).toNat = k + 1 :=
        ⟨(digits d.digits).length - (-d.exponent).toNat - 1, by omega⟩
      rw [length]
      exact (Decimal.digits_leads d.digits).take k
    · rintro ds ⟨⟩
      refine ⟨?_, fun e he => digits_small d e (List.mem_of_mem_drop he)⟩
      rw [← List.length_pos_iff, List.length_drop]
      omega
  · refine ⟨by simp, trivial, ?_, by simp⟩
    rintro ds ⟨⟩
    refine ⟨by simp [Decimal.digits_ne_nil], fun e he => ?_⟩
    rcases List.mem_append.mp he with he | he
    · rw [List.eq_of_mem_replicate he]
      omega
    · exact digits_small d e he

theorem wellformed_scientific : (scientific negative d).Wellformed := by
  refine ⟨fun e he => digits_small d e (List.mem_of_mem_take he),
    (Decimal.digits_leads d.digits).take 0, ?_, ?_⟩
  · intro ds found
    unfold scientific at found
    dsimp only at found
    split_ifs at found with single
    · cases found
    · cases found
      refine ⟨?_, fun e he => digits_small d e (List.mem_of_mem_drop he)⟩
      have := List.length_pos_iff.mpr (Decimal.digits_ne_nil d.digits)
      rw [← List.length_pos_iff, List.length_drop]
      omega
  · rintro p ⟨⟩
    exact areDigits_digits _

theorem regular_shortest {x : Binary64} (finite : x.Finite) : Regular (Decimal.shortest x) := by
  intro none
  by_cases zero : x.mantissa = 0
  · rw [Decimal.shortest, if_pos zero]
  · exact absurd none (Decimal.shortest_spec finite zero).1

theorem wellformed_ofNumber {n : Number} (h : n.Proper) : (ofNumber n).Wellformed := by
  cases n with
  | int i =>
    exact ⟨Decimal.digits_lt _, Decimal.digits_leads _, by simp [ofNumber], by simp [ofNumber]⟩
  | float x =>
    rw [ofNumber]
    split
    · exact wellformed_positional (regular_shortest h)
    · exact wellformed_scientific

theorem places_length_le (negative : Bool) (d : Shortest) :
    (positional negative d).places.length ≤ (-d.exponent).toNat + 1 := by
  unfold positional
  dsimp only
  split_ifs <;> simp [places] <;> omega

theorem magnitude_positional : (positional negative d).magnitude = d.value := by
  have value := Decimal.valueFrom_digits d.digits
  unfold positional
  dsimp only
  split_ifs with whole inside
  · have back : ((d.exponent.toNat : ℕ) : ℤ) = d.exponent := Int.toNat_of_nonneg whole
    have all : valueFrom 0 (digits d.digits ++ List.replicate d.exponent.toNat 0 ++ [0]) =
        d.digits * 10 ^ d.exponent.toNat * 10 := by
      rw [Decimal.valueFrom_append, Decimal.valueFrom_append, value, Decimal.valueFrom_replicate]
      rfl
    rw [magnitude, places, Option.getD_some, all, exponent_none rfl, Shortest.value]
    push_cast
    rw [← zpow_natCast (10 : ℚ) d.exponent.toNat, back]
    norm_num
    ring
  · have back : (((-d.exponent).toNat : ℕ) : ℤ) = -d.exponent := Int.toNat_of_nonneg (by omega)
    have length : (digits d.digits).length - ((digits d.digits).length - (-d.exponent).toNat) =
        (-d.exponent).toNat := by omega
    rw [magnitude, places, Option.getD_some, List.take_append_drop, value, exponent_none rfl,
      Shortest.value, List.length_drop, length, back, zero_sub, neg_neg]
  · have back : (((-d.exponent).toNat : ℕ) : ℤ) = -d.exponent := Int.toNat_of_nonneg (by omega)
    have length : (List.replicate ((-d.exponent).toNat - (digits d.digits).length) 0 ++
        digits d.digits).length = (-d.exponent).toNat := by
      rw [List.length_append, List.length_replicate]
      omega
    have all : valueFrom 0 ([0] ++ (List.replicate
        ((-d.exponent).toNat - (digits d.digits).length) 0 ++ digits d.digits)) = d.digits := by
      rw [Decimal.valueFrom_append, Decimal.valueFrom_append, Decimal.valueFrom_replicate]
      simpa [valueFrom] using value
    rw [magnitude, places, Option.getD_some, all, exponent_none rfl, length, back, Shortest.value,
      zero_sub, neg_neg]

theorem exponent_scientific : (scientific negative d).exponent = leading d := by
  have value := Decimal.valueFrom_digits (leading d).natAbs
  unfold scientific exponent
  by_cases sign : leading d < 0
  · simp only [sign, decide_true, value]
    omega
  · simp only [sign, decide_false, value]
    omega

theorem places_scientific : (scientific negative d).places = (digits d.digits).drop 1 := by
  unfold scientific places
  dsimp only
  split_ifs with single
  · rw [Option.getD_none, eq_comm, List.drop_eq_nil_iff]
    omega
  · rfl

theorem places_exponent_scientific :
    (scientific negative d).exponent - (scientific negative d).places.length = d.exponent := by
  rw [exponent_scientific, places_scientific, List.length_drop, leading]
  omega

theorem magnitude_scientific : (scientific negative d).magnitude = d.value := by
  have front : (scientific negative d).whole = (digits d.digits).take 1 := rfl
  rw [magnitude, places_exponent_scientific, places_scientific, front, List.take_append_drop,
    Decimal.valueFrom_digits, Shortest.value]

theorem whole_positional (h : leading d < 16) :
    valueFrom 0 (positional negative d).whole < 2 ^ 64 := by
  have short : (positional negative d).whole.length ≤ 16 := by
    unfold leading at h
    unfold positional
    dsimp only
    split_ifs
    · rw [List.length_append, List.length_replicate]
      omega
    · rw [List.length_take]
      omega
    · simp
  have small : ∀ e ∈ (positional negative d).whole, e < 10 := by
    unfold positional
    dsimp only
    split_ifs
    · intro e he
      rcases List.mem_append.mp he with he | he
      · exact digits_small d e he
      · rw [List.eq_of_mem_replicate he]
        omega
    · exact fun e he => digits_small d e (List.mem_of_mem_take he)
    · simp
  calc valueFrom 0 (positional negative d).whole
      < (0 + 1) * 10 ^ (positional negative d).whole.length := valueFrom_lt small
    _ ≤ (0 + 1) * 10 ^ 16 := Nat.mul_le_mul_left _ (Nat.pow_le_pow_right (by omega) short)
    _ < 2 ^ 64 := by norm_num

theorem power_positional (negative : Bool) (d : Shortest) :
    (positional negative d).power = none := by
  unfold positional
  dsimp only
  split_ifs <;> rfl

theorem fraction_positional : (positional negative d).fraction ≠ none := by
  unfold positional
  dsimp only
  split_ifs <;> simp

theorem positional_isSome (low : -344 ≤ d.exponent) (short : leading d < 16)
    (high : d.value ≤ largest) : (positional negative d).number?.isSome := by
  have longest := places_length_le negative d
  have power := exponent_none (power_positional negative d)
  refine number?_isSome (.inl fraction_positional) (whole_positional short) ?_ ?_ ?_
  · rw [power]
    exact Nat.zero_le _
  · rw [power]
    omega
  · rwa [magnitude_positional]

/-- The first digit stands no higher than the value reaches. -/
theorem leading_le (nonzero : d.digits ≠ 0) (high : d.value ≤ largest) : leading d ≤ 308 := by
  obtain ⟨e, ds, shape, first⟩ := Decimal.digits_shape nonzero
  have below : 10 ^ ds.length ≤ d.digits := by
    have value := Decimal.valueFrom_digits d.digits
    rw [shape] at value
    calc 10 ^ ds.length ≤ e * 10 ^ ds.length :=
          Nat.le_mul_of_pos_left _ (Nat.pos_of_ne_zero first)
      _ ≤ valueFrom e ds := le_valueFrom e ds
      _ = d.digits := by simpa [valueFrom] using value
  have cast : (10 : ℚ) ^ ds.length ≤ d.digits := by exact_mod_cast below
  have lead : leading d = d.exponent + ds.length := by
    rw [leading, shape, List.length_cons, Nat.add_sub_cancel]
  have reach : (10 : ℚ) ^ leading d ≤ d.value := by
    rw [lead, add_comm, zpow_add₀ (by norm_num), zpow_natCast, Shortest.value]
    gcongr
  have top : (largest : ℚ) < 10 ^ (309 : ℤ) := by
    have := largest_spec.2
    rw [show (309 : ℤ) = ((309 : ℕ) : ℤ) from rfl, zpow_natCast, ← Decimal.cast_tenTo]
    exact_mod_cast this
  have := (zpow_lt_zpow_iff_right₀ (a := (10 : ℚ)) (by norm_num)).mp
    (lt_of_le_of_lt (reach.trans high) top)
  omega

theorem scientific_isSome (nonzero : d.digits ≠ 0) (low : -344 ≤ d.exponent)
    (high : d.value ≤ largest) : (scientific negative d).number?.isSome := by
  have top := leading_le nonzero high
  have room : (344 : ℕ) ≤ maxPower := by decide
  refine number?_isSome (.inr (by simp [scientific])) ?_ ?_ ?_ ?_
  · have small : ∀ e ∈ (digits d.digits).take 1, e < 10 :=
      fun e he => digits_small d e (List.mem_of_mem_take he)
    calc valueFrom 0 ((digits d.digits).take 1)
        < (0 + 1) * 10 ^ ((digits d.digits).take 1).length := valueFrom_lt small
      _ ≤ (0 + 1) * 10 ^ 1 := Nat.mul_le_mul_left _
          (Nat.pow_le_pow_right (by omega) (List.length_take_le 1 _))
      _ < 2 ^ 64 := by norm_num
  · have : d.exponent ≤ leading d := by
      unfold leading
      omega
    rw [exponent_scientific]
    omega
  · rw [places_exponent_scientific]
    omega
  · rwa [magnitude_scientific]

theorem upper_le_largest {x : Binary64} (finite : x.Finite)
    (other : ¬(x.mantissa = 2 ^ 53 - 1 ∧ x.exponent = maxExponent)) :
    Decimal.upper x ≤ largest := by
  have top : ((largest : ℕ) : ℚ) = (2 ^ 54 - 3) * 2 ^ (maxExponent - 1) := cast_topAt 970
  have mantissa := finite.mantissa
  rw [top, Decimal.upper]
  rcases lt_or_eq_of_le finite.high with below | same
  · have power := zpow_le_zpow_right₀ (a := (2 : ℚ)) (by norm_num)
      (show x.exponent ≤ maxExponent - 1 by omega)
    have cast : (x.mantissa : ℚ) + 1 ≤ 2 ^ 53 := by exact_mod_cast mantissa
    refine mul_le_mul ?_ power (by positivity) (by norm_num)
    linarith
  · have less : x.mantissa + 2 ≤ 2 ^ 53 := by omega
    have cast : (x.mantissa : ℚ) + 2 ≤ 2 ^ 53 := by exact_mod_cast less
    rw [same, ← sub_add_cancel maxExponent 1, zpow_add₀ two_ne_zero, zpow_one, add_sub_cancel_right,
      mul_comm _ (2 : ℚ), ← mul_assoc]
    refine mul_le_mul_of_nonneg_right ?_ (by positivity)
    linarith

theorem largest_isSome (negative : Bool) :
    (ofNumber (.float ⟨negative, 2 ^ 53 - 1, maxExponent⟩)).number?.isSome := by
  cases negative <;> decide +kernel

/-- Every number that was read is written in a way that can be read. -/
theorem ofNumber_isSome {n : Number} (h : n.Proper) : (ofNumber n).number?.isSome := by
  cases n with
  | int i =>
    rw [ofNumber, number?_int h (Decimal.valueFrom_digits _)]
    rfl
  | float x =>
    by_cases top : x.mantissa = 2 ^ 53 - 1 ∧ x.exponent = maxExponent
    · obtain ⟨negative, mantissa, exponent⟩ := x
      obtain ⟨rfl, rfl⟩ := top
      exact largest_isSome negative
    · have high := upper_le_largest h top
      rw [ofNumber]
      by_cases zero : x.mantissa = 0
      · have decimal : Decimal.shortest x = ⟨0, 0⟩ := by rw [Decimal.shortest, if_pos zero]
        rw [if_pos (by simp [isZero, zero]), decimal]
        refine positional_isSome (by norm_num) ?_ (by simp [Shortest.value])
        decide
      · obtain ⟨nonzero, low, value⟩ := Decimal.shortest_spec h zero
        rw [show x.isZero = false by simp [isZero, zero], Bool.false_or]
        split
        · next form =>
          rw [Bool.and_eq_true, decide_eq_true_eq, decide_eq_true_eq] at form
          exact positional_isSome low form.2 (value.trans high)
        · exact scientific_isSome nonzero low (value.trans high)

end Numeral
end Resilience.Json
