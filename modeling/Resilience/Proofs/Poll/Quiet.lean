import Resilience.Proofs.Poll.Script
/-! # Checks that cannot be read

A check that could not be read this time counts as one that does not hold yet. So a wait comes to
the same if it is not told of errors at all, but for the error that it remembers, and so does one
that is told nothing but whether its condition holds.
-/
namespace Resilience

/-- The check without its error: what could not be read does not hold yet. -/
def Check.quiet : Check → Check
  | .transient _ => .notYet
  | c => c

def PollOutcome.quiet : PollOutcome → PollOutcome
  | .timedOut elapsed attempts _ => .timedOut elapsed attempts none
  | outcome => outcome

theorem Check.isOpen_quiet (c : Check) : c.quiet.IsOpen ↔ c.IsOpen := by
  cases c <;> rfl

theorem Check.remembered_quiet (c : Check) : c.quiet.remembered none = none := by
  cases c <;> rfl

/-- Without an error that ends it, a check tells no more than whether it holds. -/
theorem Check.ofBool_holds {c : Check} (harmless : ∀ reason, c ≠ .fatal reason) :
    Check.ofBool (decide (c = .holds)) = c.quiet := by
  cases c with
  | fatal reason => exact absurd rfl (harmless reason)
  | holds | notYet | transient _ => rfl

theorem PollOutcome.isConverged_quiet (outcome : PollOutcome) :
    outcome.quiet.isConverged = outcome.isConverged := by
  cases outcome <;> rfl

namespace Poll

variable {σ : Type} {interval timeout start : Duration} {check : StateM (Timed σ) Check}

/-- What is left of a wait goes on alike without errors, which it would only remember. -/
theorem waitFrom_quiet (left attempts : Nat) (lastError : Option String) (s : Timed σ) :
    waitFrom interval timeout start (Check.quiet <$> check) left attempts none s =
      Prod.map PollOutcome.quiet id
        (waitFrom interval timeout start check left attempts lastError s) := by
  induction left generalizing attempts lastError s with
  | zero => rfl
  | succ left ih =>
    have made : (Check.quiet <$> check) s = ((check s).1.quiet, (check s).2) := rfl
    by_cases unsettled : (check s).1.IsOpen
    · have unsettled' : ((Check.quiet <$> check) s).1.IsOpen :=
        ((check s).1.isOpen_quiet).mpr unsettled
      rw [waitFrom_open unsettled, waitFrom_open unsettled', made, Check.remembered_quiet]
      split
      · rfl
      · exact ih _ _ _
    · cases answer : (check s).1 with
      | holds =>
        have answer' : ((Check.quiet <$> check) s).1 = .holds := congrArg Check.quiet answer
        rw [waitFrom_holds answer, waitFrom_holds answer']
        rfl
      | fatal reason =>
        have answer' : ((Check.quiet <$> check) s).1 = .fatal reason :=
          congrArg Check.quiet answer
        rw [waitFrom_fatal answer, waitFrom_fatal answer']
        rfl
      | notYet | transient _ =>
        rw [answer] at unsettled
        exact absurd trivial unsettled

theorem waitFor_quiet (interval timeout : Duration) (check : StateM (Timed σ) Check)
    (s : Timed σ) : waitFor interval timeout (Check.quiet <$> check) s =
      Prod.map PollOutcome.quiet id (waitFor interval timeout check s) :=
  waitFrom_quiet _ _ _ s

/-- Errors that do not end a wait count as not yet: without them it comes to the same, after the
same checks and sleeps, but for the error that it remembers, and a wait that is only told whether
its condition holds says whether this one converges, after the same checks and sleeps again. -/
theorem transient_counts_as_notYet (interval timeout : Duration) {script : Nat → Check}
    (harmless : ∀ j reason, script j ≠ .fatal reason) (delays : Nat → Duration) (clock : Clock) :
    let r := waitFor interval timeout (played script delays) ⟨clock, []⟩
    waitFor interval timeout (played (fun j => (script j).quiet) delays) ⟨clock, []⟩ =
        (r.1.quiet, r.2) ∧
      waitUntil interval timeout (played (fun j => decide (script j = .holds)) delays)
        ⟨clock, []⟩ = (r.1.isConverged, r.2) := by
  intro r
  have alike : waitFor interval timeout (played (fun j => (script j).quiet) delays) ⟨clock, []⟩ =
      (r.1.quiet, r.2) := waitFor_quiet interval timeout (played script delays) ⟨clock, []⟩
  have told : (fun j => Check.ofBool (decide (script j = .holds))) = fun j => (script j).quiet :=
    funext fun j => Check.ofBool_holds (harmless j)
  refine ⟨alike, ?_⟩
  calc waitUntil interval timeout (played (fun j => decide (script j = .holds)) delays) ⟨clock, []⟩
      = Prod.map PollOutcome.isConverged id (waitFor interval timeout
          (played (fun j => Check.ofBool (decide (script j = .holds))) delays) ⟨clock, []⟩) := rfl
    _ = (r.1.quiet.isConverged, r.2) := by rw [told, alike]; rfl
    _ = (r.1.isConverged, r.2) := by rw [PollOutcome.isConverged_quiet]

/-- The service that is warming up is read slowly, so that its wait runs out at the second check. The
error of the first one is remembered, or there was none to remember. -/
theorem transient_counts_as_notYet_warmingUp :
    let wait (script : Nat → Check) := waitFor (.ofSeconds 4) (.ofSeconds 10)
      (played script fun _ => .ofSeconds 3) ⟨{}, []⟩
    (∀ j reason, warmingUp j ≠ .fatal reason) ∧
      (wait warmingUp).1 = .timedOut (.ofSeconds 10) 2 (some "503") ∧
      (wait fun j => (warmingUp j).quiet) = (.timedOut (.ofSeconds 10) 2 none, (wait warmingUp).2) ∧
      waitUntil (.ofSeconds 4) (.ofSeconds 10) (played (fun j => decide (warmingUp j = .holds))
        fun _ => .ofSeconds 3) ⟨{}, []⟩ = (false, (wait warmingUp).2) := by
  intro wait
  have harmless : ∀ j reason, warmingUp j ≠ .fatal reason := by
    intro j reason
    match j with
    | 0 | 1 | _ + 2 => simp [warmingUp]
  have ranOut : (wait warmingUp).1 = .timedOut (.ofSeconds 10) 2 (some "503") := by decide +kernel
  obtain ⟨alike, told⟩ := transient_counts_as_notYet (.ofSeconds 4) (.ofSeconds 10) harmless
    (fun _ => .ofSeconds 3) {}
  exact ⟨harmless, ranOut, alike.trans (by rw [ranOut]; rfl), told.trans (by rw [ranOut]; rfl)⟩

end Poll
end Resilience
