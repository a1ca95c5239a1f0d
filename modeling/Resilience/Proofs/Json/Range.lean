import Resilience.Json.Parser
import Resilience.Proofs.Decimal.Digits
import Resilience.Proofs.Decimal.Shortest
/-! # Numerals within range

A numeral denotes a number unless its leading digits, scaled by the power of ten, exceed the
doubles. What a numeral denotes is an integer of 64 bits or a finite double.
-/
namespace Resilience.Json

open Binary64
open Decimal (valueFrom cast_tenTo tenTo_mono tenTo_pos)

def Number.Proper : Number → Prop
  | .int n => -2 ^ 63 ≤ n ∧ n < 2 ^ 64
  | .float x => x.Finite

section Gather

theorem gather_spec (n : ℕ) (ds : List ℕ) : ∃ taken, ds = taken ++ (gather n ds).2 ∧
    (gather n ds).1 = valueFrom n taken := by
  induction ds generalizing n with
  | nil => exact ⟨[], rfl, rfl⟩
  | cons d ds ih =>
    rw [gather]
    split
    · obtain ⟨taken, split, value⟩ := ih (n * 10 + d)
      exact ⟨d :: taken, congrArg (d :: ·) split, value⟩
    · exact ⟨[], rfl, rfl⟩

theorem gather_lt {n : ℕ} (h : n < 2 ^ 64) (ds : List ℕ) : (gather n ds).1 < 2 ^ 64 := by
  induction ds generalizing n with
  | nil => exact h
  | cons d ds ih =>
    rw [gather]
    split
    · next small => exact ih small
    · exact h

theorem le_valueFrom (n : ℕ) (ds : List ℕ) : n * 10 ^ ds.length ≤ valueFrom n ds := by
  induction ds generalizing n with
  | nil => simp [valueFrom]
  | cons d ds ih =>
    calc n * 10 ^ (ds.length + 1) = n * 10 * 10 ^ ds.length := by ring
      _ ≤ (n * 10 + d) * 10 ^ ds.length := Nat.mul_le_mul_right _ (by omega)
      _ ≤ valueFrom (n * 10 + d) ds := ih _

theorem valueFrom_lt {n : ℕ} {ds : List ℕ} (h : ∀ d ∈ ds, d < 10) :
    valueFrom n ds < (n + 1) * 10 ^ ds.length := by
  induction ds generalizing n with
  | nil => simp [valueFrom]
  | cons d ds ih =>
    have small := h d List.mem_cons_self
    calc valueFrom (n * 10 + d) ds < (n * 10 + d + 1) * 10 ^ ds.length :=
          ih fun e he => h e (List.mem_cons_of_mem _ he)
      _ ≤ ((n + 1) * 10) * 10 ^ ds.length := Nat.mul_le_mul_right _ (by omega)
      _ = (n + 1) * 10 ^ (ds.length + 1) := by ring

/-- Digits whose value fits are all gathered. -/
theorem gather_whole {n : ℕ} {ds : List ℕ} (h : valueFrom n ds < 2 ^ 64) :
    gather n ds = (valueFrom n ds, []) := by
  induction ds generalizing n with
  | nil => rfl
  | cons d ds ih =>
    have fits : n * 10 + d < twoTo 64 := by
      refine lt_of_le_of_lt ?_ h
      calc n * 10 + d ≤ (n * 10 + d) * 10 ^ ds.length := Nat.le_mul_of_pos_right _ (by positivity)
        _ ≤ valueFrom (n * 10 + d) ds := le_valueFrom _ ds
    rw [gather, if_pos fits]
    exact ih h

end Gather

section Scale

theorem magnitude_ofRatio_one {negative : Bool} {x : Binary64}
    (h : ofRatio? negative 1 1 = some x) : x.magnitude = 1 := by
  have one : ofRatio? negative 1 1 = some ⟨negative, 2 ^ 52, -52⟩ := by
    cases negative <;> decide +kernel
  cases one.symm.trans h
  norm_num [magnitude]

/-- The powers of ten up to the 308th are doubles. -/
theorem powerOfTen_eq {p : ℕ} (h : p ≤ 308) :
    ofRatio? false (tenTo p) 1 = some (powerOfTen p) := by
  obtain ⟨top, found⟩ := Option.isSome_iff_exists.mp
    (show (ofRatio? false (tenTo 308) 1).isSome by decide +kernel)
  have less := tenTo_mono h
  have order : ((tenTo p : ℕ) : ℚ) / (1 : ℕ) ≤ (tenTo 308 : ℕ) / (1 : ℕ) := by
    gcongr
  obtain ⟨x, found, -⟩ := ofRatio?_mono false one_pos one_pos order found
  rw [powerOfTen, found, Option.getD_some]

theorem one_le_powerOfTen {p : ℕ} (h : p ≤ 308) : 1 ≤ (powerOfTen p).magnitude := by
  have order : ((1 : ℕ) : ℚ) / (1 : ℕ) ≤ (tenTo p : ℕ) / (1 : ℕ) := by
    gcongr
    exact tenTo_pos p
  obtain ⟨x, found, le⟩ := ofRatio?_mono false one_pos one_pos order (powerOfTen_eq h)
  rwa [magnitude_ofRatio_one found] at le

theorem num_powerOfTen_pos {p : ℕ} (h : p ≤ 308) : 0 < (powerOfTen p).num := by
  rcases Nat.eq_zero_or_pos (powerOfTen p).num with zero | pos
  · have := one_le_powerOfTen h
    rw [← num_div_den, zero, Nat.cast_zero, zero_div] at this
    linarith
  · exact pos

theorem ofRatio?_twoTo (negative : Bool) : ∃ w, ofRatio? negative (2 ^ 64) 1 = some w ∧
    w.magnitude = 2 ^ 64 := by
  refine ⟨⟨negative, 2 ^ 52, 12⟩, ?_, ?_⟩
  · cases negative <;> decide +kernel
  · norm_num [magnitude]

variable {f g : Binary64} {p : ℕ}

theorem divide?_powerOfTen (hf : f.magnitude ≤ 2 ^ 64) (hp : p ≤ 308) :
    ∃ g, f.divide? (powerOfTen p) = some g ∧ g.magnitude ≤ 2 ^ 64 := by
  obtain ⟨w, found, value⟩ := ofRatio?_twoTo false
  have pos := num_powerOfTen_pos hp
  have dpos := (powerOfTen p).den_pos
  have order : ((f.num * (powerOfTen p).den : ℕ) : ℚ) / (f.den * (powerOfTen p).num : ℕ) ≤
      (2 ^ 64 : ℕ) / (1 : ℕ) := by
    have ten := one_le_powerOfTen hp
    rw [Nat.cast_mul, Nat.cast_mul, mul_div_mul_comm, num_div_den, ← inv_div, num_div_den]
    calc f.magnitude * (powerOfTen p).magnitude⁻¹ ≤ f.magnitude * 1 := by
          have := f.magnitude_nonneg
          gcongr
          exact inv_le_one_of_one_le₀ ten
      _ ≤ (2 ^ 64 : ℕ) / (1 : ℕ) := by
          rw [mul_one, Nat.cast_one, div_one, Nat.cast_pow]
          exact hf
  obtain ⟨g, quotient, le⟩ := ofRatio?_mono f.negative
    (Nat.mul_pos f.den_pos pos) one_pos order found
  exact ⟨g, quotient, value ▸ le⟩

/-- Small powers of ten never lead out of range. -/
theorem scaleByPower_neg {fuel : ℕ} {e : ℤ} (hf : f.magnitude ≤ 2 ^ 64) (he : e < 0)
    (enough : -308 * (fuel : ℤ) ≤ e) : (scaleByPower f e fuel).isSome := by
  induction fuel generalizing f e with
  | zero => omega
  | succ fuel ih =>
    rw [scaleByPower]
    split
    · next near =>
      obtain ⟨g, quotient, -⟩ := divide?_powerOfTen hf near
      rw [if_neg (by omega), quotient]
      rfl
    · next far =>
      split
      · rfl
      · obtain ⟨g, quotient, small⟩ := divide?_powerOfTen hf (le_refl 308)
        rw [if_neg (by omega), quotient, Option.bind_some]
        exact ih small (by omega) (by push_cast at enough; omega)

/-- What rounds to fifty-three digits short of the last of them is no larger than this. -/
@[irreducible]
def topAt (exponent : ℕ) : ℕ := (2 ^ 54 - 3) * twoTo exponent

/-- What rounds to a double below the largest one is no larger than this. -/
abbrev largest : ℕ := topAt 970

theorem cast_topAt (n : ℕ) : ((topAt n : ℕ) : ℚ) = (2 ^ 54 - 3) * 2 ^ (n : ℤ) := by
  rw [topAt, Nat.cast_mul, cast_twoTo, zpow_natCast]
  norm_num

/-- Of the counts that a power of ten leaves room for the last one is still within range. -/
theorem scaleUp?_last {p : ℕ} (h : p < 309) : 288 ≤ p →
    ((ofNat? false (min (largest / tenTo p) (2 ^ 64 - 1))).bind
      (·.scaleUp? (powerOfTen p))).isSome := by
  revert p
  decide +kernel

theorem largest_spec : 2 ^ 64 ≤ largest / tenTo 288 ∧ largest < tenTo 309 := by
  decide +kernel

theorem powerOfTen_mono {q : ℕ} (h : p ≤ q) (hq : q ≤ 308) :
    (powerOfTen p).magnitude ≤ (powerOfTen q).magnitude := by
  have less := tenTo_mono h
  have order : ((tenTo p : ℕ) : ℚ) / (1 : ℕ) ≤ (tenTo q : ℕ) / (1 : ℕ) := by
    gcongr
  obtain ⟨x, found, le⟩ := ofRatio?_mono false one_pos one_pos order
    (powerOfTen_eq hq)
  cases (powerOfTen_eq (h.trans hq)).symm.trans found
  exact le

theorem ofNat?_mono (negative : Bool) {sign : Bool} {m n : ℕ} (h : m ≤ n) (found : ofNat? sign n = some g) :
    ∃ f, ofNat? negative m = some f ∧ f.magnitude ≤ g.magnitude := by
  refine ofRatio?_mono negative one_pos one_pos ?_ found
  gcongr

theorem ofNat?_lt (negative : Bool) {s : ℕ} (h : s < 2 ^ 64) :
    ∃ f, ofNat? negative s = some f ∧ f.magnitude ≤ 2 ^ 64 := by
  obtain ⟨w, found, value⟩ := ofRatio?_twoTo false
  obtain ⟨f, count, le⟩ := ofNat?_mono negative h.le found
  exact ⟨f, count, value ▸ le⟩

theorem scaleUp?_powerOfTen {s : ℕ} {negative : Bool} (hs : s < 2 ^ 64) (hp : p ≤ 308)
    (room : s * tenTo p ≤ largest) (found : ofNat? negative s = some f) :
    (f.scaleUp? (powerOfTen p)).isSome := by
  -- below the 288th power every count has room
  obtain ⟨q, above, hq, hpq, least⟩ : ∃ q, 288 ≤ q ∧ q < 309 ∧ p ≤ q ∧
      s ≤ min (largest / tenTo q) (2 ^ 64 - 1) := by
    rcases lt_or_ge p 288 with small | great
    · exact ⟨288, le_rfl, by omega, small.le, le_min (hs.le.trans largest_spec.1) (by omega)⟩
    · exact ⟨p, great, by omega, le_rfl,
        le_min ((Nat.le_div_iff_mul_le (tenTo_pos _)).mpr room) (by omega)⟩
  obtain ⟨w, scaled⟩ := Option.isSome_iff_exists.mp (scaleUp?_last hq above)
  obtain ⟨g, count, product⟩ := Option.bind_eq_some_iff.mp scaled
  obtain ⟨f', again, le⟩ := ofNat?_mono negative least count
  cases found.symm.trans again
  obtain ⟨v, result, -⟩ := scaleUp?_mono le (powerOfTen_mono hpq (by omega)) product
  rw [result]
  rfl

theorem scaleByPower_nonneg {fuel s : ℕ} {e : ℤ} {negative : Bool} (hs : s < 2 ^ 64) (he : 0 ≤ e)
    (room : s * tenTo e.toNat ≤ largest) (found : ofNat? negative s = some f) :
    (scaleByPower f e (fuel + 1)).isSome := by
  rw [scaleByPower]
  split
  · next near =>
    have same : e.natAbs = e.toNat := by omega
    rw [same] at near ⊢
    exact scaleUp?_powerOfTen hs near room found
  · next far =>
    have zero : s = 0 := by
      have bound := largest_spec.2
      have := tenTo_mono (show 309 ≤ e.toNat by omega)
      by_contra nonzero
      have := Nat.le_mul_of_pos_left (tenTo e.toNat) (Nat.pos_of_ne_zero nonzero)
      omega
    subst zero
    cases found
    rfl

theorem finite_scaleByPower {fuel : ℕ} {e : ℤ} (hf : f.Finite)
    (found : scaleByPower f e fuel = some g) : g.Finite := by
  induction fuel generalizing f e with
  | zero => cases found
  | succ fuel ih =>
    have quotient : ∀ {p h}, p ≤ 308 → f.divide? (powerOfTen p) = some h → h.Finite :=
      fun hp => finite_ofRatio? (Nat.mul_pos f.den_pos (num_powerOfTen_pos hp))
    rw [scaleByPower] at found
    split at found
    · next near =>
      split at found
      · exact finite_ofRatio? (Nat.mul_pos f.den_pos (den_pos _)) found
      · exact quotient near found
    · split at found
      · cases found
        exact hf
      · split at found
        · cases found
        · obtain ⟨h, divided, rest⟩ := Option.bind_eq_some_iff.mp found
          exact ih (quotient le_rfl divided) rest

end Scale

namespace Numeral

def exponent (n : Numeral) : ℤ :=
  match n.power with
  | none => 0
  | some (true, ds) => -(valueFrom 0 ds : ℤ)
  | some (false, ds) => valueFrom 0 ds

def places (n : Numeral) : List ℕ := n.fraction.getD []

def magnitude (n : Numeral) : ℚ :=
  valueFrom 0 (n.whole ++ n.places) * 10 ^ (n.exponent - n.places.length)

variable {n : Numeral} {s : ℕ} {e : ℤ}

theorem float?_isSome (power : n.exponent.natAbs ≤ maxPower) (hs : s < 2 ^ 64)
    (low : -2464 ≤ e + n.exponent) (high : (s : ℚ) * 10 ^ (e + n.exponent) ≤ largest) :
    (n.float? s e).isSome := by
  obtain ⟨f, found, small⟩ := ofNat?_lt n.negative hs
  have scaled : (scaleByPower f (e + n.exponent) 8).isSome := by
    rcases lt_or_ge (e + n.exponent) 0 with neg | pos
    · exact scaleByPower_neg small neg (by omega)
    · refine scaleByPower_nonneg hs pos ?_ found
      rw [zpow_toNat, show (-(e + n.exponent)).toNat = 0 by omega, pow_zero, div_one,
        ← cast_tenTo] at high
      exact_mod_cast high
  rw [float?, found]
  unfold exponent at power scaled
  rw [Option.bind_eq_bind, Option.bind_some]
  match written : n.power with
  | none => simpa [written] using scaled
  | some (minus, ds) =>
    have value : powerValue? ds = some (valueFrom 0 ds) := by
      refine if_pos ?_
      rw [written] at power
      cases minus <;> simpa [valueFrom] using power
    rw [written] at scaled
    cases minus
    · simpa [value] using scaled
    · simpa [value, Int.sub_eq_add_neg] using scaled

/-- Digits that are dropped only make a number smaller. -/
theorem shift_le {v t l : ℕ} (longer : t ≤ l) (h : s * 10 ^ (l - t) ≤ v) :
    (s : ℚ) * 10 ^ (-(t : ℤ) + e) ≤ v * 10 ^ (e - l) := by
  have cast : (s : ℚ) * 10 ^ (l - t) ≤ v := by exact_mod_cast h
  calc (s : ℚ) * 10 ^ (-(t : ℤ) + e) = s * 10 ^ (l - t) * 10 ^ (e - l) := by
        rw [mul_assoc, ← zpow_natCast, ← zpow_add₀ (by norm_num)]
        congr 2
        omega
    _ ≤ v * 10 ^ (e - l) := by gcongr

/-- A numeral with a point or a power denotes a number if its magnitude is within range. -/
theorem number?_isSome (point : n.fraction ≠ none ∨ n.power ≠ none)
    (whole : valueFrom 0 n.whole < 2 ^ 64) (power : n.exponent.natAbs ≤ maxPower)
    (low : -2464 ≤ n.exponent - n.places.length) (high : n.magnitude ≤ largest) :
    n.number?.isSome := by
  have gathered := gather_whole whole
  obtain ⟨negative, front, fraction, written⟩ := n
  cases fraction with
  | none =>
    have held : (float? ⟨negative, front, none, written⟩ (valueFrom 0 front) 0).isSome :=
      float?_isSome power whole (by simpa [places] using low)
        (by simpa [magnitude, places] using high)
    cases written with
    | none => simp at point
    | some p => simpa [number?, gathered] using held
  | some ds =>
    obtain ⟨taken, split, value⟩ := gather_spec (valueFrom 0 front) ds
    have fits := gather_lt whole ds
    have lengths := congrArg List.length split
    rw [List.length_append] at lengths
    have behind : (gather (valueFrom 0 front) ds).2.length = ds.length - taken.length := by omega
    have kept : (ds.length - (gather (valueFrom 0 front) ds).2.length : ℕ) = taken.length := by
      omega
    have held : (float? ⟨negative, front, some ds, written⟩ (gather (valueFrom 0 front) ds).1
        (-(taken.length : ℤ))).isSome := by
      have longer : taken.length ≤ ds.length := by omega
      refine float?_isSome power fits ?_ (le_trans (shift_le longer ?_) high)
      · simp only [places, Option.getD_some] at low
        omega
      · have below := le_valueFrom (gather (valueFrom 0 front) ds).1
          (gather (valueFrom 0 front) ds).2
        have all : valueFrom 0 (front ++ ds) =
            valueFrom (gather (valueFrom 0 front) ds).1 (gather (valueFrom 0 front) ds).2 := by
          rw [value, ← Decimal.valueFrom_append, ← split, Decimal.valueFrom_append]
        rwa [← all, behind] at below
    cases written <;> simpa [number?, gathered, kept] using held

/-- Whole numbers of 64 bits denote themselves. -/
theorem number?_int {i : ℤ} (h : -2 ^ 63 ≤ i ∧ i < 2 ^ 64) {ds : List ℕ}
    (value : valueFrom 0 ds = i.natAbs) :
    number? ⟨decide (i < 0), ds, none, none⟩ = some (.int i) := by
  have gathered : gather 0 ds = (i.natAbs, []) := by
    rw [← value]
    exact gather_whole (by omega)
  rw [number?, gathered]
  by_cases sign : i < 0
  · have less : ¬(i.natAbs = 0 ∨ twoTo 63 < i.natAbs) := by
      have : twoTo 63 = 2 ^ 63 := rfl
      omega
    simp only [List.isEmpty_nil, if_true, sign, decide_true, if_neg less]
    congr 2
    omega
  · simp only [List.isEmpty_nil, if_true, sign, decide_false, Bool.false_eq_true, if_false]
    congr 2
    omega

theorem float?_proper {v : Number} (found : n.float? s e = some v) : v.Proper := by
  obtain ⟨f, count, scaled⟩ := Option.bind_eq_some_iff.mp found
  have finite : f.Finite := finite_ofRatio? one_pos count
  have mapped : ∀ {d}, (scaleByPower f d 8).map Number.float = some v → v.Proper := by
    intro d h
    obtain ⟨g, result, rfl⟩ := Option.map_eq_some_iff.mp h
    exact finite_scaleByPower finite result
  split at scaled
  · exact mapped scaled
  · split at scaled
    · exact mapped scaled
    · split at scaled
      · cases scaled
      · cases scaled
        exact finite_zero n.negative

theorem number?_proper {v : Number} (found : n.number? = some v) : v.Proper := by
  have small := gather_lt (show 0 < 2 ^ 64 by norm_num) n.whole
  rw [number?] at found
  dsimp only at found
  split at found
  · split at found
    · split at found
      · split at found
        · exact float?_proper found
        · next inside =>
          have : twoTo 63 = 2 ^ 63 := rfl
          cases found
          constructor <;> omega
      · cases found
        constructor <;> omega
    · exact float?_proper found
  · exact float?_proper found
  · exact float?_proper found

end Numeral
end Resilience.Json
