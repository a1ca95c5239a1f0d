import Resilience.Cluster.Scripted
import Resilience.Fault.Injection
import Resilience.Proofs.Scenario.Pace
import Resilience.Scenario.Drain
import Resilience.Scenario.Phase
import Resilience.Settings.Load
/-! # Settings that bound what they start

Settings that nothing is wrong with have an interval of some length for every wait, and none longer
than its deadline. Hence every wait that is started with them ends in time, and so does a whole
drain.
-/
namespace Resilience

/-- Between two checks some time passes, and the second one is not past the deadline. -/
structure Paces (interval deadline : Duration) : Prop where
  paced : 0 < interval.nanos
  fits : interval ≤ deadline

namespace Settings

theorem intervalProblem_eq_nil_iff {name : String} {deadline interval : Duration} :
    intervalProblem name deadline interval = [] ↔ Paces interval deadline := by
  unfold intervalProblem
  constructor
  · intro nothing
    split at nothing
    · cases nothing
    · next moves =>
      split at nothing
      · cases nothing
      · next below => exact ⟨Nat.pos_of_ne_zero moves, Nat.not_lt.mp below⟩
  · rintro ⟨paced, fits⟩
    have below : ¬deadline < interval := Nat.not_lt.mpr fits
    rw [if_neg paced.ne', if_neg below]

/-- The intervals of the four waits. -/
theorem paces_of_validate {s : Settings} (valid : s.validate = .ok ()) :
    Paces s.disruption.pollInterval s.disruption.readyTimeout ∧
      Paces s.disruption.pollInterval s.disruption.perPodTimeout ∧
      Paces s.faultInjection.pollInterval s.faultInjection.waitTimeout ∧
      Paces s.operator.pollInterval s.operator.timeout := by
  have none : s.problems = [] := by
    unfold validate at valid
    split at valid
    · next none => exact none
    · cases valid
  simp only [problems, List.append_eq_nil_iff, intervalProblem_eq_nil_iff] at none
  obtain ⟨⟨⟨⟨⟨⟨ready, perPod⟩, chaos⟩, operator⟩, -⟩, -⟩, -⟩ := none
  exact ⟨ready, perPod, chaos, operator⟩

end Settings

namespace Drain

variable {σ : Type} {client : Client σ} {w : WorkloadRef} {settings : DisruptionSettings}

theorem readyCheck_still (t : Timed (Stage σ)) :
    (readyCheck client w t).2.clock = t.clock := by
  simp only [readyCheck, bind, StateT.bind]
  generalize made : Scenario.perform client (.readiness w) t = answered
  have silent : answered.2.clock = t.clock := by
    rw [← made]
    rfl
  obtain ⟨answer, after⟩ := answered
  cases answer <;> exact silent

/-- The deadline of a node is no shorter than that of a single pod, unless that is longer than any
time. -/
theorem le_recoveryTimeout {interval perPod : Duration} (fits : interval ≤ perPod)
    (small : interval ≤ .longest) (pods : Nat) : interval ≤ recoveryTimeout perPod pods := by
  rw [Duration.le_def] at fits small ⊢
  have one : 1 ≤ min (max pods 1) (twoTo 32 - 1) :=
    le_min (le_max_right pods 1) (by decide)
  refine le_min ?_ small
  calc interval.nanos ≤ perPod.nanos := fits
    _ = perPod.nanos * 1 := (Nat.mul_one _).symm
    _ ≤ perPod.nanos * min (max pods 1) (twoTo 32 - 1) := Nat.mul_le_mul_left _ one

section Times

variable (client settings w)

/-- What a node may take: its deadline and one interval. -/
def cycleLimit (settings : DisruptionSettings) (r : NodeRecord) : Nat :=
  r.timeout.nanos + settings.pollInterval.nanos

variable {client settings w}

theorem waitReady_takes {timeout : Duration} (paces : Paces settings.pollInterval timeout) :
    Takes (waitReady client settings w timeout)
      fun _ time => time = timeout.nanos + settings.pollInterval.nanos := by
  intro s
  have still : ∀ t, (readyCheck client w t).2.clock = t.clock := readyCheck_still
  obtain ⟨-, -, -, -, soon⟩ := Poll.waitFor_bounded paces.paced paces.fits still s
  exact ⟨_, Nat.le_of_lt soon, rfl⟩

theorem deletePods_takes (pods : List Pod) :
    Takes (deletePods client pods) fun _ time => time = 0 := by
  induction pods with
  | nil => exact Takes.pure rfl
  | cons p pods ih =>
    apply Takes.perform_bind
    intro reply
    apply ih.bind
    rintro rest _ rfl
    cases reply with
    | ok _ => exact Takes.pure rfl
    | error e =>
      dsimp only
      split
      · exact Takes.pure rfl
      · exact Takes.pure rfl

variable (paced : 0 < settings.pollInterval.nanos)
  (fits : settings.pollInterval ≤ settings.perPodTimeout)
  (small : settings.pollInterval ≤ .longest)

include paced fits small in
theorem drainNode_takes (node : String) : Takes (drainNode client settings w node)
    fun r time => time ≤ cycleLimit settings r := by
  apply Takes.perform_bind
  intro listed
  cases listed with
  | error e => exact Takes.pure (Nat.zero_le _)
  | ok pods =>
    apply (deletePods_takes _).bind
    rintro d _ rfl
    dsimp only
    split
    · exact Takes.pure (Nat.zero_le _)
    · apply (waitReady_takes ⟨paced, le_recoveryTimeout fits small _⟩).bind_pure
      rintro wait _ rfl
      rw [Nat.zero_add]
      exact Nat.le_refl _

include paced fits small in
theorem nodeRecord_takes (node : String) : Takes (nodeRecord client settings w node)
    fun r time => time ≤ cycleLimit settings r := by
  apply Takes.perform_bind
  intro answer
  cases answer with
  | error e => exact Takes.pure (Nat.zero_le _)
  | ok _ => exact drainNode_takes paced fits small node

theorem uncordon_takes (node : String) :
    Takes (uncordon client node) fun _ time => time = 0 := by
  apply Takes.perform_bind
  intro answer
  cases answer with
  | error e => exact Takes.pure rfl
  | ok _ => exact Takes.pure rfl

include paced fits small in
theorem disruptNodes_takes (nodes : List String) : Takes (disruptNodes client settings w nodes)
    fun r time => time ≤ (r.1.map (cycleLimit settings)).sum := by
  induction nodes with
  | nil => exact Takes.pure (Nat.le_refl _)
  | cons node nodes ih =>
    apply (nodeRecord_takes paced fits small node).bind
    intro r first within
    apply (uncordon_takes node).bind
    rintro result _ rfl
    cases result with
    | error e => exact Takes.pure (by simpa using within)
    | ok _ =>
      apply ih.bind_pure
      intro rest second within'
      simp only [List.map_cons, List.sum_cons]
      omega

include paced fits small in
theorem drive_takes (ready : settings.pollInterval ≤ settings.readyTimeout) :
    Takes (drive client settings w) fun r time =>
      time ≤ settings.readyTimeout.nanos + settings.pollInterval.nanos +
        (r.1.map (cycleLimit settings)).sum := by
  apply (waitReady_takes ⟨paced, ready⟩).bind
  rintro baseline _ rfl
  dsimp only
  split
  · exact Takes.pure (Nat.le_refl _)
  · apply Takes.perform_bind
    intro listed
    cases listed with
    | error e => exact Takes.pure (Nat.le_refl _)
    | ok pods =>
      dsimp only
      split
      · exact Takes.pure (Nat.le_refl _)
      · apply (disruptNodes_takes paced fits small _).bind_pure
        intro r time within
        exact Nat.add_le_add_left within _

def runLimit (settings : DisruptionSettings) (ws : List WorkloadRef)
    (reports : List WorkloadReport) : Nat :=
  (ws.map fun _ => settings.readyTimeout.nanos + settings.pollInterval.nanos).sum +
    ((reports.flatMap WorkloadReport.nodes).map (cycleLimit settings)).sum

include paced fits small in
variable (client) in
theorem runFrom_takes (ready : settings.pollInterval ≤ settings.readyTimeout)
    (done : List WorkloadReport) (ws : List WorkloadRef) :
    Takes (runFrom client settings done ws) fun r time =>
      ∃ reports, r.1.workloads = done ++ reports ∧ time ≤ runLimit settings ws reports := by
  induction ws generalizing done with
  | nil => exact Takes.pure ⟨[], (List.append_nil _).symm, Nat.le_refl _⟩
  | cons w ws ih =>
    apply (drive_takes paced fits small ready).bind
    rintro ⟨records, result⟩ first within
    dsimp only at within
    cases result with
    | error e =>
      apply Takes.report_bind
      refine Takes.pure ⟨[⟨w, .error, e.message, records⟩], rfl, ?_⟩
      simp only [runLimit, List.map_cons, List.sum_cons, List.flatMap_cons, List.flatMap_nil,
        List.append_nil]
      omega
    | ok verdict =>
      apply Takes.report_bind
      apply (ih _).imp
      rintro r second ⟨reports, all, within'⟩
      refine ⟨⟨w, verdict.1, verdict.2, records⟩ :: reports, ?_, ?_⟩
      · rw [all, List.append_assoc]
        rfl
      · simp only [runLimit, List.map_cons, List.sum_cons, List.flatMap_cons, List.map_append,
          List.sum_append] at within' ⊢
        omega

end Times

end Drain

namespace Settings

variable {σ : Type}

structure BoundsWaits (settings : Settings) (client : Client σ) : Prop where
  baseline : ∀ w t, Poll.Bounded settings.disruption.pollInterval settings.disruption.readyTimeout
    (Drain.readyCheck client w) t
  recovery : ∀ w pods t, Poll.Bounded settings.disruption.pollInterval
    (Drain.recoveryTimeout settings.disruption.perPodTimeout pods) (Drain.readyCheck client w) t
  completion : ∀ ns t, Poll.Bounded settings.faultInjection.pollInterval
    settings.faultInjection.waitTimeout
    (Scenario.look client (.list Fault.engines (some ns))
      (Fault.judge settings.faultInjection.experiment ns)) t
  phase : ∀ ns name t, Poll.Bounded settings.operator.pollInterval settings.operator.timeout
    (Scenario.look client (.get Phase.serviceVersions (some ns) name) (Phase.judge ns name)) t

/-- With settings that nothing is wrong with, every wait is bounded, and a drain of workloads takes
no longer than the deadlines of their baselines and of the nodes that it reports, with an interval
for each. -/
theorem validated_runs_bounded {settings : Settings} (valid : settings.validate = .ok ())
    (small : settings.disruption.pollInterval ≤ .longest) (client : Client σ) :
    settings.BoundsWaits client ∧
      ∀ (ws : List WorkloadRef) (s : Timed (Stage σ)),
        (Drain.run client settings.disruption ws s).2.clock.now.nanos ≤
          s.clock.now.nanos + Drain.runLimit settings.disruption ws
            (Drain.run client settings.disruption ws s).1.1.workloads := by
  obtain ⟨ready, perPod, chaos, operator⟩ := paces_of_validate valid
  constructor
  · constructor
    · intro w t
      exact Poll.waitFor_bounded ready.paced ready.fits Drain.readyCheck_still t
    · intro w pods t
      exact Poll.waitFor_bounded perPod.paced (Drain.le_recoveryTimeout perPod.fits small pods)
        Drain.readyCheck_still t
    · intro ns t
      exact Poll.waitFor_bounded chaos.paced chaos.fits (Scenario.look_still _ _ _) t
    · intro ns name t
      exact Poll.waitFor_bounded operator.paced operator.fits (Scenario.look_still _ _ _) t
  · intro ws s
    have takes := Drain.runFrom_takes client ready.paced perPod.fits small ready.fits [] ws
    obtain ⟨time, within, reports, all, limit⟩ := takes s
    rw [List.nil_append] at all
    rw [Drain.run, all]
    exact within.trans (Nat.add_le_add_left limit _)

section LostPod

def briefSettings : Settings where
  disruption := { readyTimeout := .ofSeconds 10, perPodTimeout := .ofSeconds 6,
                  pollInterval := .ofSeconds 4 }

def shop : WorkloadRef := ⟨"shop", "web", .deployment⟩

/-- A workload that is ready once, and not any more when it has lost its pod. -/
def lostPod : Timed (Stage ScriptedCluster) := ⟨{}, ⟨(ScriptedCluster.initial.scriptReadiness shop
  [.ok ⟨1, 1, 1, 1, 0, 1⟩, .ok ⟨1, 0, 0, 1, 1, 1⟩]).addPod shop "web-0" "worker-1", []⟩⟩

/-- The wait for the lost pod runs out at its third check, 8 s after the start. -/
theorem validated_runs_bounded_lostPod :
    briefSettings.validate = .ok () ∧ briefSettings.disruption.pollInterval ≤ .longest ∧
      briefSettings.BoundsWaits ScriptedCluster.client ∧
      (Drain.run ScriptedCluster.client briefSettings.disruption [shop] lostPod).2.clock.now =
        .ofSeconds 8 ∧
      (Drain.run ScriptedCluster.client briefSettings.disruption [shop] lostPod).2.clock.now ≤
        .ofSeconds (10 + 4 + (6 + 4)) := by
  have valid : briefSettings.validate = .ok () := rfl
  have small : briefSettings.disruption.pollInterval ≤ .longest := by decide
  have limit : lostPod.clock.now.nanos + Drain.runLimit briefSettings.disruption [shop]
      (Drain.run ScriptedCluster.client briefSettings.disruption [shop] lostPod).1.1.workloads =
        (Duration.ofSeconds (10 + 4 + (6 + 4))).nanos := by decide +kernel
  obtain ⟨waits, time⟩ := validated_runs_bounded valid small ScriptedCluster.client
  refine ⟨valid, small, waits, by decide +kernel, ?_⟩
  rw [Duration.le_def, ← limit]
  exact time [shop] lostPod

end LostPod

end Settings
end Resilience
