import Mathlib.Order.Defs.Unbundled
import Resilience.Scenario.Watch
/-! # What a run keeps

A run keeps a relation if the cluster behind it stands in that relation to the cluster before it,
whatever that was. For a preorder it is enough that every call keeps it: runs that are put
together from calls, reports and waits then keep it too.
-/
namespace Resilience

variable {σ τ α β : Type}

/-- What a view shows behind a run is related to what it showed before. -/
def Keeps (view : σ → τ) (R : τ → τ → Prop) (m : StateM (Timed σ) α) : Prop :=
  ∀ s, R (view s.state) (view (m s).2.state)

namespace Keeps

variable {view : σ → τ} {R : τ → τ → Prop} [IsPreorder τ R]

theorem pure (a : α) : Keeps view R (Pure.pure a : StateM (Timed σ) α) :=
  fun s => refl (view s.state)

theorem bind {m : StateM (Timed σ) α} {f : α → StateM (Timed σ) β} (hm : Keeps view R m)
    (hf : ∀ a, Keeps view R (f a)) : Keeps view R (m >>= f) :=
  fun s => IsTrans.trans _ _ _ (hm s) (hf (m s).1 (m s).2)

/-- The clock is no part of what a check could have changed, so a wait of any length keeps what
its check keeps. -/
theorem waitFrom {check : StateM (Timed σ) Check} (hc : Keeps view R check)
    (interval timeout start : Duration) (left attempts : Nat) (lastError : Option String) :
    Keeps view R (Poll.waitFrom interval timeout start check left attempts lastError) := by
  induction left generalizing attempts lastError with
  | zero => intro s; exact refl (view s.state)
  | succ left ih =>
    intro s
    have first := hc s
    simp only [Poll.waitFrom]
    generalize check s = answered at first ⊢
    obtain ⟨answer, after⟩ := answered
    have again : ∀ error, R (view s.state) (view
        (if timeout ≤ after.clock.now - start
          then (PollOutcome.timedOut (after.clock.now - start) (attempts + 1) error, after)
          else Poll.waitFrom interval timeout start check left (attempts + 1) error
            { after with clock := after.clock.sleep interval }).2.state) := by
      intro error
      split
      · exact first
      · exact IsTrans.trans _ _ _ first
          (ih _ error { after with clock := after.clock.sleep interval })
    cases answer with
    | holds => exact first
    | fatal reason => exact first
    | notYet => exact again _
    | transient message => exact again _

theorem waitFor {check : StateM (Timed σ) Check} (hc : Keeps view R check)
    (interval timeout : Duration) : Keeps view R (Poll.waitFor interval timeout check) :=
  fun s => waitFrom hc interval timeout s.clock.now _ 0 none s

end Keeps

namespace Scenario

variable {R : σ → σ → Prop} {client : Client σ} {ν : Type}

theorem keeps_perform {call : Call} (h : ∀ c, R c (client.perform call c).2) :
    Keeps Stage.cluster R (perform client call) :=
  fun s => h s.state.cluster

variable [IsPreorder σ R]

theorem keeps_report (r : ScenarioReport) :
    Keeps Stage.cluster R (report r : Scenario σ Unit) :=
  fun s => refl s.state.cluster

/-- Watching makes one kind of call only. -/
theorem keeps_watch {call : Call} (h : ∀ c, R c (client.perform call c).2)
    (interval timeout : Duration) (judge : Judge ν call) (note : ν) :
    Keeps Stage.cluster R (watch client interval timeout call judge note) := by
  have look : Keeps (fun n : Noted ν σ => n.stage.cluster) R (look client call judge) :=
    fun s => h s.state.stage.cluster
  exact fun s => look.waitFor interval timeout ⟨s.clock, ⟨s.state, note⟩⟩

end Scenario
end Resilience
