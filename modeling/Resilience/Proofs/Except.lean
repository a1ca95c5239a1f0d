import Mathlib.Data.List.Basic
/-! # Steps that may fail

What is known when a step, or a run of steps one after another, succeeds or fails.
-/
namespace Resilience

variable {ε ε' α β σ : Type}

theorem bind_eq_ok {x : Except ε α} {f : α → Except ε β} {b : β}
    (h : x >>= f = .ok b) : ∃ a, x = .ok a ∧ f a = .ok b := by
  cases x with
  | error e => cases h
  | ok a => exact ⟨a, rfl, h⟩

theorem bind_eq_error {x : Except ε α} {f : α → Except ε β} {e : ε}
    (h : x >>= f = .error e) : x = .error e ∨ ∃ a, x = .ok a ∧ f a = .error e := by
  cases x with
  | error e' =>
    cases h
    exact .inl rfl
  | ok a => exact .inr ⟨a, rfl, h⟩

theorem map_eq_ok {x : Except ε α} {f : α → β} {b : β} (h : x.map f = .ok b) :
    ∃ a, x = .ok a ∧ f a = b := by
  cases x with
  | error e => cases h
  | ok a =>
    cases h
    exact ⟨a, rfl, rfl⟩

theorem toOption_eq_some {x : Except ε α} {a : α} (h : x.toOption = some a) : x = .ok a := by
  cases x with
  | error e => cases h
  | ok b =>
    cases h
    rfl

theorem mapError_eq_ok {x : Except ε α} {f : ε → ε'} {a : α}
    (h : x.mapError f = .ok a) : x = .ok a := by
  cases x with
  | error e => cases h
  | ok b =>
    cases h
    rfl

theorem mapError_eq_error {x : Except ε α} {f : ε → ε'} {e' : ε'}
    (h : x.mapError f = .error e') : ∃ e, x = .error e ∧ f e = e' := by
  cases x with
  | error e =>
    cases h
    exact ⟨e, rfl, rfl⟩
  | ok a => cases h

/-- What every step of a run keeps holds behind the run. -/
theorem foldlM_preserves {P : σ → Prop} {step : σ → α → Except ε σ} {items : List α} {s s' : σ}
    (keeps : ∀ s s', ∀ a ∈ items, P s → step s a = .ok s' → P s') (first : P s)
    (run : items.foldlM step s = .ok s') : P s' := by
  induction items generalizing s with
  | nil =>
    cases run
    exact first
  | cons a items ih =>
    rw [List.foldlM_cons] at run
    obtain ⟨between, stepped, run⟩ := bind_eq_ok run
    exact ih (fun s s' b hb => keeps s s' b (List.mem_cons_of_mem a hb))
      (keeps s between a List.mem_cons_self first stepped) run

end Resilience
