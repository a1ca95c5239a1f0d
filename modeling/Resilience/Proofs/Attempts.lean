import Resilience.Proofs.Pace
/-! # The attempts of a wait

A wait counts its checks. How many it can make is the number of intervals in its deadline, and
nothing else bounds it: settings that nothing is wrong with may have a deadline of any number of
intervals, and a condition that stays open has all of those checks made.
-/
namespace Resilience

namespace Poll

variable {σ : Type} {interval timeout : Duration} {check : StateM (Timed σ) Check} {s : Timed σ}
  {limit : Nat}

/-- A wait from here counts its checks up to less than this: its loop ends behind fewer. -/
def EndsBefore (limit : Nat) (interval timeout : Duration) (check : StateM (Timed σ) Check)
    (s : Timed σ) : Prop :=
  ∃ checks, Loop interval timeout s.clock.now check 0 none s checks
    (waitFor interval timeout check s) ∧ checks < limit

theorem endsBefore_of_checkLimit (paced : 0 < interval.nanos)
    (still : ∀ t, (check t).2.clock = t.clock) (room : checkLimit interval timeout < limit) :
    EndsBefore limit interval timeout check s := by
  obtain ⟨k, inTime, loop, -⟩ := waitFor_course paced (forward_of_still still) s
  exact ⟨k + 1, loop, lt_of_le_of_lt inTime room⟩

section Open

variable (paced : 0 < interval.nanos) (still : ∀ t, (check t).2.clock = t.clock)
  (unsettled : ∀ t, (check t).1.IsOpen)
include paced still unsettled

/-- A condition that stays open is checked as often as the deadline lets it be. -/
theorem Course.ranOut {k : Nat} {r : PollOutcome × Timed σ}
    (h : Course interval timeout check s k r) :
    k + 1 = checkLimit interval timeout ∧
      ∃ lastError, r.1 = .timedOut ⟨k * interval.nanos⟩ (k + 1) lastError := by
  obtain ⟨inTime, -, -, stops, -⟩ := h
  have unsettled : (checked interval check s k).1.IsOpen := unsettled (before interval check s k)
  generalize r.1 = outcome at stops ⊢
  cases stops with
  | holds settled | givesUp settled =>
    rw [settled] at unsettled
    cases unsettled
  | late _ passed =>
    rw [elapsed_checked still] at passed ⊢
    exact ⟨eq_checkLimit_of_late paced inTime passed, _, by rw [Nat.zero_add]⟩

variable (timeout s) in
theorem waitFor_ranOut : ∃ lastError, (waitFor interval timeout check s).1 =
    .timedOut ⟨timeout.nanos ⌈/⌉ interval.nanos * interval.nanos⟩
      (timeout.nanos ⌈/⌉ interval.nanos + 1) lastError := by
  obtain ⟨k, course⟩ : ∃ k, Course interval timeout check s k (waitFor interval timeout check s) :=
    waitFor_course paced (forward_of_still still) s
  obtain ⟨last, lastError, outcome⟩ := course.ranOut paced still unsettled
  obtain rfl : k = timeout.nanos ⌈/⌉ interval.nanos := Nat.succ_injective last
  exact ⟨lastError, outcome⟩

theorem endsBefore_iff_of_open :
    EndsBefore limit interval timeout check s ↔ checkLimit interval timeout < limit := by
  refine ⟨?_, endsBefore_of_checkLimit paced still⟩
  rintro ⟨checks, loop, below⟩
  obtain ⟨k, course⟩ : ∃ k, Course interval timeout check s k (waitFor interval timeout check s) :=
    waitFor_course paced (forward_of_still still) s
  obtain ⟨rfl, -⟩ := loop.unique course.loop
  rwa [(course.ranOut paced still unsettled).1] at below

end Open

end Poll

namespace Settings

inductive Wait where
  /-- That a workload is ready before its drain. -/
  | baseline (w : WorkloadRef)
  /-- That a workload recovers from the loss of so many pods. -/
  | recovery (w : WorkloadRef) (pods : Nat)
  /-- That the experiment in a namespace is completed. -/
  | completion (ns : String)
  /-- That an operator is installed. -/
  | phase (ns name : String)

namespace Wait

variable (settings : Settings)

def interval : Wait → Duration
  | .baseline _ | .recovery _ _ => settings.disruption.pollInterval
  | .completion _ => settings.faultInjection.pollInterval
  | .phase _ _ => settings.operator.pollInterval

def deadline : Wait → Duration
  | .baseline _ => settings.disruption.readyTimeout
  | .recovery _ pods => Drain.recoveryTimeout settings.disruption.perPodTimeout pods
  | .completion _ => settings.faultInjection.waitTimeout
  | .phase _ _ => settings.operator.timeout

/-- What is kept between two checks: for some waits a note of what was read. -/
def State (σ : Type) : Wait → Type
  | .baseline _ | .recovery _ _ => Stage σ
  | .completion _ => Scenario.Noted (Option ScenarioError) σ
  | .phase _ _ => Scenario.Noted Phase.Trace σ

def check {σ : Type} (client : Client σ) : (wait : Wait) → StateM (Timed (wait.State σ)) Check
  | .baseline w | .recovery w _ => Drain.readyCheck client w
  | .completion ns => Scenario.look client (.list Fault.engines (some ns))
    (Fault.judge settings.faultInjection.experiment ns)
  | .phase ns name => Scenario.look client (.get Phase.serviceVersions (some ns) name)
    (Phase.judge ns name)

def StaysBelow (limit : Nat) {σ : Type} (client : Client σ) (wait : Wait) : Prop :=
  ∀ t, Poll.EndsBefore limit (wait.interval settings) (wait.deadline settings)
    (wait.check settings client) t

variable {settings} {wait : Wait} {limit : Nat}

theorem interval_pos (valid : settings.validate = .ok ()) (wait : Wait) :
    0 < (wait.interval settings).nanos := by
  obtain ⟨ready, -, chaos, operator⟩ := paces_of_validate valid
  cases wait with
  | baseline | recovery => exact ready.paced
  | completion => exact chaos.paced
  | phase => exact operator.paced

theorem check_still {σ : Type} (client : Client σ) (t : Timed (wait.State σ)) :
    (wait.check settings client t).2.clock = t.clock := by
  cases wait with
  | baseline | recovery => exact Drain.readyCheck_still t
  | completion | phase => rfl

/-- A cluster where nothing ever comes about: the objects that are asked for are empty, and no other
call gets through. -/
def silence : Client Unit where
  perform
    | .get _ _ _ => pure (.ok (.object []))
    | _ => pure (.error (.transport "timed out"))

theorem check_silence (t : Timed (wait.State Unit)) :
    (wait.check settings silence t).1.IsOpen := by
  cases wait <;> trivial

theorem staysBelow_of_checkLimit (paced : 0 < (wait.interval settings).nanos)
    (room : Poll.checkLimit (wait.interval settings) (wait.deadline settings) < limit)
    {σ : Type} (client : Client σ) : wait.StaysBelow settings limit client := fun _ =>
  Poll.endsBefore_of_checkLimit paced (check_still client) room

def start : (wait : Wait) → Timed (wait.State Unit)
  | .baseline _ | .recovery _ _ => ⟨{}, ⟨(), []⟩⟩
  | .completion _ => ⟨{}, ⟨⟨(), []⟩, none⟩⟩
  | .phase _ _ => ⟨{}, ⟨⟨(), []⟩, {}⟩⟩

theorem checkLimit_of_staysBelow (paced : 0 < (wait.interval settings).nanos)
    (below : wait.StaysBelow settings limit silence) :
    Poll.checkLimit (wait.interval settings) (wait.deadline settings) < limit :=
  (Poll.endsBefore_iff_of_open paced (check_still silence) check_silence).mp (below wait.start)

end Wait

/-- With settings that nothing is wrong with, a counter of 32 bits holds the attempts of a wait,
however its checks turn out, just if it has room for one in every interval that begins before the
deadline and one more. -/
theorem validated_attempts_fit_iff {settings : Settings} (valid : settings.validate = .ok ())
    (wait : Wait) :
    (∀ (σ : Type) (client : Client σ), wait.StaysBelow settings (twoTo 32) client) ↔
      (wait.deadline settings).nanos ⌈/⌉ (wait.interval settings).nanos + 1 < twoTo 32 := by
  have paced := wait.interval_pos valid
  constructor
  · intro below
    exact Wait.checkLimit_of_staysBelow paced (below Unit Wait.silence)
  · intro room σ client
    exact Wait.staysBelow_of_checkLimit paced room client

section Hasty

/-- Settings with a check of a workload in every nanosecond. -/
def hastySettings : Settings where
  disruption := { readyTimeout := .ofSeconds 5, perPodTimeout := .ofSeconds 2,
                  pollInterval := ⟨1⟩ }

/-- The attempts of a recovery from the loss of two pods fit, and of three pods do not. -/
theorem validated_attempts_fit_iff_hastySettings :
    hastySettings.validate = .ok () ∧
      (∀ (σ : Type) (client : Client σ),
        (Wait.recovery shop 2).StaysBelow hastySettings (twoTo 32) client) ∧
      ¬∀ (σ : Type) (client : Client σ),
        (Wait.recovery shop 3).StaysBelow hastySettings (twoTo 32) client := by
  have valid : hastySettings.validate = .ok () := rfl
  refine ⟨valid, ?_, ?_⟩
  · rw [validated_attempts_fit_iff valid]
    decide +kernel
  · rw [validated_attempts_fit_iff valid]
    decide +kernel

/-- Nothing is wrong with the settings, though the baseline of a workload that cannot be read takes
more attempts than 32 bits count. -/
theorem attempts_may_not_fit :
    hastySettings.validate = .ok () ∧
      (∃ lastError, (Drain.waitReady Wait.silence hastySettings.disruption shop
        hastySettings.disruption.readyTimeout ⟨{}, ⟨(), []⟩⟩).1 =
          .timedOut (.ofSeconds 5) 5000000001 lastError) ∧
      ¬(Wait.baseline shop).StaysBelow hastySettings (twoTo 32) Wait.silence := by
  have valid : hastySettings.validate = .ok () := rfl
  have paced : 0 < hastySettings.disruption.pollInterval.nanos := by decide
  have intervals : hastySettings.disruption.readyTimeout.nanos ⌈/⌉
      hastySettings.disruption.pollInterval.nanos = 5000000000 := by decide +kernel
  refine ⟨valid, ?_, fun below => ?_⟩
  · have unsettled : ∀ t, (Drain.readyCheck Wait.silence shop t).1.IsOpen := fun _ => trivial
    have ranOut := Poll.waitFor_ranOut hastySettings.disruption.readyTimeout ⟨{}, ⟨(), []⟩⟩ paced
      Drain.readyCheck_still unsettled
    rwa [intervals] at ranOut
  · have room := Wait.checkLimit_of_staysBelow ((Wait.baseline shop).interval_pos valid) below
    exact absurd room (by decide +kernel)

end Hasty

end Settings
end Resilience
