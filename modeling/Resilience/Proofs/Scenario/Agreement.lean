import Resilience.Proofs.Poll.Loop
import Resilience.Proofs.Scenario.Pace
/-! # Two runs side by side

A run does not see what the clock shows, only how long its waits take. So it comes to the same from
any two stages on which its calls are answered alike.
-/
namespace Resilience

variable {σ α β : Type}

/-- From states that are so related a run comes to the same, and it leaves states that are so
related, whatever the clocks show. -/
def Agrees (R : σ → σ → Prop) (m : StateM (Timed σ) α) : Prop :=
  ∀ s s', R s.state s'.state → (m s).1 = (m s').1 ∧ R (m s).2.state (m s').2.state

namespace Agrees

variable {R : σ → σ → Prop}

theorem pure (a : α) : Agrees R (Pure.pure a : StateM (Timed σ) α) :=
  fun _ _ related => ⟨rfl, related⟩

/-- What comes next may rely on its argument being an answer of the run before it. -/
theorem bind {m : StateM (Timed σ) α} {f : α → StateM (Timed σ) β} (hm : Agrees R m)
    (hf : ∀ a, (∃ s s' : Timed σ, R s.state s'.state ∧ (m s).1 = a) → Agrees R (f a)) :
    Agrees R (m >>= f) := by
  intro s s' related
  obtain ⟨same, related'⟩ := hm s s' related
  have next := hf (m s).1 ⟨s, s', related, rfl⟩ (m s).2 (m s').2 related'
  have other : (m >>= f) s' = f (m s).1 (m s').2 := by
    rw [same]
    rfl
  rw [other]
  exact next

variable {check : StateM (Timed σ) Check} {interval timeout start start' : Duration}

/-- Two waits that have gone on for the same time go on alike. -/
theorem waitFrom (hc : Agrees R check) (still : ∀ t, (check t).2.clock = t.clock)
    (left attempts : Nat) (lastError : Option String) {s s' : Timed σ} {passed : Duration}
    (related : R s.state s'.state) (here : s.clock.now = start + passed)
    (there : s'.clock.now = start' + passed) :
    (Poll.waitFrom interval timeout start check left attempts lastError s).1 =
        (Poll.waitFrom interval timeout start' check left attempts lastError s').1 ∧
      R (Poll.waitFrom interval timeout start check left attempts lastError s).2.state
        (Poll.waitFrom interval timeout start' check left attempts lastError s').2.state := by
  induction left generalizing attempts lastError s s' passed with
  | zero =>
    have elapsed : s.clock.now - start = passed := by rw [here, Duration.add_sub_cancel_left]
    have elapsed' : s'.clock.now - start' = passed := by rw [there, Duration.add_sub_cancel_left]
    simp only [Poll.waitFrom, elapsed, elapsed']
    exact ⟨trivial, related⟩
  | succ left ih =>
    obtain ⟨same, related'⟩ := hc s s' related
    have elapsed : (check s).2.clock.now - start = passed := by
      rw [still, here, Duration.add_sub_cancel_left]
    have elapsed' : (check s').2.clock.now - start' = passed := by
      rw [still, there, Duration.add_sub_cancel_left]
    by_cases unsettled : (check s).1.IsOpen
    · rw [Poll.waitFrom_open unsettled, Poll.waitFrom_open (same ▸ unsettled), elapsed, elapsed',
        ← same]
      by_cases late : timeout ≤ passed
      · rw [if_pos late, if_pos late]
        exact ⟨rfl, related'⟩
      · rw [if_neg late, if_neg late]
        refine @ih (attempts + 1) _ { (check s).2 with clock := (check s).2.clock.sleep interval }
          { (check s').2 with clock := (check s').2.clock.sleep interval }
          (passed + interval) related' ?_ ?_
        · rw [Clock.now_sleep, still, here, Duration.add_assoc]
        · rw [Clock.now_sleep, still, there, Duration.add_assoc]
    · cases answer : (check s).1 with
      | holds =>
        rw [Poll.waitFrom_holds answer, Poll.waitFrom_holds (same.symm.trans answer), elapsed,
          elapsed']
        exact ⟨rfl, related'⟩
      | fatal reason =>
        rw [Poll.waitFrom_fatal answer, Poll.waitFrom_fatal (same.symm.trans answer)]
        exact ⟨rfl, related'⟩
      | notYet | transient _ =>
        rw [answer] at unsettled
        exact absurd trivial unsettled

theorem waitFor (hc : Agrees R check) (still : ∀ t, (check t).2.clock = t.clock)
    (interval timeout : Duration) : Agrees R (Poll.waitFor interval timeout check) :=
  fun _ _ related => hc.waitFrom still _ _ _ related (Duration.add_zero _).symm
    (Duration.add_zero _).symm

end Agrees

namespace Scenario

variable {R : Stage σ → Stage σ → Prop} {client : Client σ} {call : Call} {ν : Type}

def AnswersAlike (client : Client σ) (R : Stage σ → Stage σ → Prop) (call : Call) : Prop :=
  ∀ t t', R t t' → (client.perform call t.cluster).1 = (client.perform call t'.cluster).1 ∧
    R { t with cluster := (client.perform call t.cluster).2 }
      { t' with cluster := (client.perform call t'.cluster).2 }

theorem agrees_perform (h : AnswersAlike client R call) : Agrees R (perform client call) :=
  fun s s' related => h s.state s'.state related

theorem agrees_watch (h : AnswersAlike client R call) (interval timeout : Duration)
    (judge : Judge ν call) (note : ν) :
    Agrees R (watch client interval timeout call judge note) := by
  -- the notes are part of what the two runs have to share
  let noted : Noted ν σ → Noted ν σ → Prop := fun n n' => R n.stage n'.stage ∧ n.note = n'.note
  have look : Agrees noted (look client call judge) := by
    rintro ⟨clock, stage, note⟩ ⟨clock', stage', note'⟩ ⟨related, rfl⟩
    obtain ⟨same, related'⟩ := h stage stage' related
    have judged : judge note (client.perform call stage.cluster).1 =
        judge note (client.perform call stage'.cluster).1 := congrArg (judge note) same
    have check : (judge note (client.perform call stage.cluster).1).1 =
        (judge note (client.perform call stage'.cluster).1).1 := congrArg Prod.fst judged
    exact ⟨check, related', congrArg (fun r => r.2) judged⟩
  intro s s' related
  obtain ⟨same, related', notes⟩ := look.waitFor (look_still client call judge) interval timeout
    ⟨s.clock, ⟨s.state, note⟩⟩ ⟨s'.clock, ⟨s'.state, note⟩⟩ ⟨related, rfl⟩
  exact ⟨Prod.ext same notes, related'⟩

end Scenario
end Resilience
