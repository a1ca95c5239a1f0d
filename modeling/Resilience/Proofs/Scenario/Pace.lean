import Resilience.Proofs.Poll.Loop
import Resilience.Scenario.Watch
/-! # How long a scenario takes

Calls and reports take no time, so that all the time of a scenario goes by in its waits. Scenarios
put together take the sum of what their parts take.
-/
namespace Resilience

variable {σ α β : Type}

/-- Whatever it starts from, a scenario takes at most some time, in nanoseconds, that fits its
result. -/
def Takes (m : Scenario σ α) (fits : α → Nat → Prop) : Prop :=
  ∀ s, ∃ time, (m s).2.clock.now.nanos ≤ s.clock.now.nanos + time ∧ fits (m s).1 time

namespace Takes

variable {m : Scenario σ α} {f : α → Scenario σ β} {fits : α → Nat → Prop}
  {result : β → Nat → Prop}

theorem pure {a : α} (h : fits a 0) : Takes (Pure.pure a : Scenario σ α) fits :=
  fun s => ⟨0, Nat.le_refl s.clock.now.nanos, h⟩

theorem bind (hm : Takes m fits) (hf : ∀ a first, fits a first →
    Takes (f a) fun b second => result b (first + second)) : Takes (m >>= f) result := by
  intro s
  obtain ⟨first, before, fit⟩ := hm s
  obtain ⟨second, behind, fit'⟩ := hf _ first fit (m s).2
  refine ⟨first + second, ?_, fit'⟩
  calc (f (m s).1 (m s).2).2.clock.now.nanos
      ≤ (m s).2.clock.now.nanos + second := behind
    _ ≤ s.clock.now.nanos + first + second := Nat.add_le_add_right before second
    _ = s.clock.now.nanos + (first + second) := Nat.add_assoc _ _ _

theorem imp {other : α → Nat → Prop} (h : Takes m fits)
    (weaker : ∀ a time, fits a time → other a time) : Takes m other := by
  intro s
  obtain ⟨time, within, fit⟩ := h s
  exact ⟨time, within, weaker _ time fit⟩

theorem bind_pure {g : α → β} (hm : Takes m fits)
    (h : ∀ a time, fits a time → result (g a) time) :
    Takes (m >>= fun a => Pure.pure (g a)) result := by
  apply hm.bind
  intro a time fit
  exact Takes.pure (h a time fit)

theorem perform (client : Client σ) (call : Call) :
    Takes (Scenario.perform client call) fun _ time => time = 0 :=
  fun s => ⟨0, Nat.le_refl s.clock.now.nanos, rfl⟩

theorem perform_bind {client : Client σ} {call : Call}
    {f : Except ClusterError call.Reply → Scenario σ β}
    (hf : ∀ answer, Takes (f answer) result) : Takes (Scenario.perform client call >>= f) result := by
  apply (perform client call).bind
  rintro answer _ rfl
  simpa only [Nat.zero_add] using hf answer

theorem report_bind {r : ScenarioReport} {m : Scenario σ β} (h : Takes m result) :
    Takes (Scenario.report r >>= fun _ => m) result := by
  have silent : Takes (Scenario.report r : Scenario σ Unit) fun _ time => time = 0 :=
    fun s => ⟨0, Nat.le_refl s.clock.now.nanos, rfl⟩
  apply silent.bind
  rintro _ _ rfl
  simpa only [Nat.zero_add] using h

end Takes

theorem Scenario.look_still {ν : Type} (client : Client σ) (call : Call) (judge : Judge ν call)
    (t : Timed (Noted ν σ)) : (look client call judge t).2.clock = t.clock := rfl

end Resilience
