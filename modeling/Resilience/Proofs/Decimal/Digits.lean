import Mathlib.Algebra.Group.Nat.Defs
import Resilience.Decimal
import Resilience.Text.Char
/-! # Decimal digits

The digits that are written for a number: there is at least one, none of them leads without need,
and their value is the number.
-/
namespace Resilience.Decimal

def digits (n : Nat) : List Nat := (digitChars n).map fun c => c.toNat - 48

def valueFrom (n : Nat) (ds : List Nat) : Nat := ds.foldl (fun n d => n * 10 + d) n

theorem digitChars_of_lt {n : Nat} (h : n < 10) : digitChars n = [n.digitChar] := by
  rw [digitChars, Nat.toString_eq_ofList_toDigits, String.toList_ofList, Nat.toDigits_of_lt_base h]

theorem digitChars_of_le {n : Nat} (h : 10 ≤ n) :
    digitChars n = digitChars (n / 10) ++ [(n % 10).digitChar] := by
  simp only [digitChars, Nat.toString_eq_ofList_toDigits, String.toList_ofList]
  exact Nat.toDigits_of_base_le (by omega) h

theorem digits_of_lt {n : Nat} (h : n < 10) : digits n = [n] := by
  rw [digits, digitChars_of_lt h, List.map_singleton, Nat.toNat_digitChar_sub_48_of_lt_ten h]

theorem digits_of_le {n : Nat} (h : 10 ≤ n) : digits n = digits (n / 10) ++ [n % 10] := by
  rw [digits, digitChars_of_le h, List.map_append, List.map_singleton,
    Nat.toNat_digitChar_sub_48_of_lt_ten (Nat.mod_lt n (by omega))]
  rfl

/-- What holds of one digit and of digits with one more behind them holds of all numbers. -/
theorem digits_induction {P : Nat → List Nat → Prop} (one : ∀ n < 10, P n [n])
    (more : ∀ n, 10 ≤ n → P (n / 10) (digits (n / 10)) → P n (digits (n / 10) ++ [n % 10]))
    (n : Nat) : P n (digits n) := by
  induction n using Nat.strongRecOn with
  | ind n ih =>
    rcases Nat.lt_or_ge n 10 with h | h
    · rw [digits_of_lt h]
      exact one n h
    · rw [digits_of_le h]
      exact more n h (ih (n / 10) (by omega))

theorem digits_lt (n : Nat) : ∀ d ∈ digits n, d < 10 := by
  refine digits_induction (P := fun _ ds => ∀ d ∈ ds, d < 10) (fun n h => ?_)
    (fun n _ ih d hd => ?_) n
  · simpa using h
  · rcases List.mem_append.mp hd with hd | hd
    · exact ih d hd
    · rw [List.mem_singleton.mp hd]
      exact Nat.mod_lt n (by omega)

theorem valueFrom_append (n : Nat) (ds es : List Nat) :
    valueFrom n (ds ++ es) = valueFrom (valueFrom n ds) es :=
  List.foldl_append

theorem valueFrom_digits (n : Nat) : valueFrom 0 (digits n) = n := by
  refine digits_induction (P := fun n ds => valueFrom 0 ds = n) (fun n _ => ?_)
    (fun n _ ih => ?_) n
  · simp [valueFrom]
  · rw [valueFrom_append, ih]
    exact Nat.div_add_mod' n 10

theorem valueFrom_replicate (n k : Nat) : valueFrom n (List.replicate k 0) = n * 10 ^ k := by
  induction k generalizing n with
  | zero => simp [valueFrom]
  | succ k ih =>
    change valueFrom (n * 10 + 0) (List.replicate k 0) = _
    rw [ih, Nat.pow_succ, Nat.add_zero, Nat.mul_assoc, Nat.mul_comm 10]

theorem digits_ne_nil (n : Nat) : digits n ≠ [] :=
  digits_induction (P := fun _ ds => ds ≠ []) (by simp) (by simp) n

theorem digits_head {n : Nat} (h : (digits n).head? = some 0) : n = 0 := by
  revert h
  refine digits_induction (P := fun n ds => ds.head? = some 0 → n = 0) (fun n _ h => ?_)
    (fun n h ih found => ?_) n
  · simpa using h
  · obtain ⟨d, ds, shape⟩ := List.exists_cons_of_ne_nil (digits_ne_nil (n / 10))
    rw [shape] at ih found
    have := ih found
    omega

/-- There is a digit, and the first of several is not zero. -/
def Leads : List Nat → Prop
  | [] => False
  | [_] => True
  | d :: _ => d ≠ 0

theorem Leads.of_head {d : Nat} (h : d ≠ 0) (ds : List Nat) : Leads (d :: ds) := by
  cases ds with
  | nil => trivial
  | cons e es => exact h

theorem Leads.take {ds : List Nat} (h : Leads ds) (k : Nat) : Leads (ds.take (k + 1)) := by
  match ds, h with
  | [_], _ => simp [Leads]
  | d :: _ :: _, h => exact of_head h _

theorem digits_shape {n : Nat} (h : n ≠ 0) : ∃ d ds, digits n = d :: ds ∧ d ≠ 0 := by
  obtain ⟨d, ds, shape⟩ := List.exists_cons_of_ne_nil (digits_ne_nil n)
  refine ⟨d, ds, shape, ?_⟩
  rintro rfl
  exact h (digits_head (by rw [shape]; rfl))

theorem digits_leads (n : Nat) : Leads (digits n) := by
  by_cases zero : n = 0
  · rw [digits_of_lt (by omega)]
    trivial
  · obtain ⟨d, ds, shape, leading⟩ := digits_shape zero
    rw [shape]
    exact .of_head leading ds

theorem digitChars_eq (n : Nat) : digitChars n = (digits n).map Nat.digitChar := by
  induction n using Nat.strongRecOn with
  | ind n ih =>
    rcases Nat.lt_or_ge n 10 with h | h
    · rw [digitChars_of_lt h, digits_of_lt h, List.map_singleton]
    · rw [digitChars_of_le h, digits_of_le h, ih (n / 10) (by omega), List.map_append,
        List.map_singleton]

end Resilience.Decimal
