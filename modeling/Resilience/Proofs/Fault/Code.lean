import Resilience.Proofs.Fault.Verdict
/-! # The code of a fault

A fault injection that passed has no code. One whose engine did not complete in time has the code of
a workload that did not recover; every other one has a code of fault injections or of the cluster.
-/
namespace Resilience.Fault

open Poll (checkLimit)
open ScriptedCluster (client)

section Codes

variable {experiment : String} {w : WorkloadRef}

theorem code_eq_none_iff (result : Except ScenarioError ResultVerdict) :
    (judgeAttempt experiment w result).2.2 = none ↔
      (judgeAttempt experiment w result).1 = .pass := by
  cases result with
  | ok r => by_cases passed : r.hasPassed experiment <;> simp [judgeAttempt, passed]
  | error e => cases e <;> simp [judgeAttempt]

theorem code_of_error (e : ScenarioError) :
    (judgeAttempt experiment w (.error e)).2.2 = some e.code := by
  cases e <;> rfl

inductive Coded (late : Prop) : Option ErrorCode → Prop
  | passed (inTime : ¬late) : Coded late none
  | timedOut (outOfTime : late) : Coded late (some .recoveryTimeout)
  | attributed (inTime : ¬late) {c : ErrorCode}
      (fits : c.category = .faultInjection ∨ c.category = .cluster) : Coded late (some c)

namespace Coded

variable {late : Prop} {code : Option ErrorCode}

theorem eq_of_late (h : Coded late code) (outOfTime : late) : code = some .recoveryTimeout := by
  cases h with
  | passed inTime | attributed inTime => exact absurd outOfTime inTime
  | timedOut => rfl

theorem fits_of_inTime {c : ErrorCode} (h : Coded late (some c)) (inTime : ¬late) :
    c.category = .faultInjection ∨ c.category = .cluster := by
  cases h with
  | timedOut outOfTime => exact absurd outOfTime inTime
  | attributed _ fits => exact fits

end Coded

/-- The objects were created, and no listing of engines in time settled anything. -/
def RanOut (experiment : String) (limit : Nat) (applied : Except ScenarioError Unit)
    (engines : Nat → Except ClusterError (List Json)) : Prop :=
  applied = .ok () ∧ ∀ k < limit, Undecided experiment (engines k)

theorem coded_of_error {late : Prop} (inTime : ¬late) {e : ScenarioError}
    (source : IsAttributed e) : Coded late (judgeAttempt experiment w (.error e)).2.2 := by
  rw [code_of_error]
  exact .attributed inTime source

theorem coded_of_result {late : Prop} (inTime : ¬late) (r : ResultVerdict) :
    Coded late (judgeAttempt experiment w (.ok r)).2.2 := by
  rw [judgeAttempt]
  split
  · exact .passed inTime
  · exact .attributed inTime (.inl rfl)

variable {limit : Nat} {applied : Except ScenarioError Unit}
  {engines : Nat → Except ClusterError (List Json)} {results : Except ClusterError (List Json)}
  {result : Except ScenarioError ResultVerdict}

/-- However an attempt ends, its code tells whether its time ran out. -/
theorem AttemptEnds.coded (h : AttemptEnds experiment limit applied engines results result) :
    Coded (RanOut experiment limit applied engines) (judgeAttempt experiment w result).2.2 := by
  cases h with
  | unapplied failed source =>
    refine coded_of_error (fun ranOut => ?_) source
    cases failed.symm.trans ranOut.1
  | unfinished ok wait =>
    cases wait with
    | ranOut undecided source =>
      obtain ⟨what, deadline, lastError, rfl⟩ := source
      exact .timedOut ⟨ok, undecided⟩
    | failed fails source =>
      exact coded_of_error (fun ranOut => fails.not_all_undecided ranOut.2) source
  | finished ok wait read =>
    cases wait with
    | completed completes _ =>
      have inTime : ¬RanOut experiment limit applied engines :=
        fun ranOut => completes.not_all_undecided ranOut.2
      cases read with
      | shown => exact coded_of_result inTime _
      | failed _ source => exact coded_of_error inTime source

end Codes

theorem run_code (settings : FaultInjectionSettings) (source : TemplateSource)
    (target : FaultTarget) (s : Timed (Stage ScriptedCluster)) :
    (run client settings source target s).1.code =
      (judgeAttempt settings.experiment target.workload
        (attempt client settings source target s).1.result).2.2 :=
  congrArg (fun r => r.1.code) (run_eq client settings source target s)

theorem run_coded (settings : FaultInjectionSettings) (source : TemplateSource)
    (target : FaultTarget) (paced : 0 < settings.pollInterval.nanos)
    (s : Timed (Stage ScriptedCluster)) :
    let applied := apply client source target s
    Coded (RanOut settings.experiment (checkLimit settings.pollInterval settings.waitTimeout)
        applied.1.2
        (applied.2.state.cluster.listing engines.kind (some target.workload.namespaceName)))
      (run client settings source target s).1.code := by
  intro applied
  rw [run_code]
  exact (attempt_ends settings source target paced s).coded

/-- A fault injection has no code exactly if it passed. If its objects were created and no listing
of engines in time settled anything, its code is that of a workload that did not recover from a
drain; in every other case a code is one of fault injections or of the cluster. -/
theorem run_code_fits_iff_inTime (settings : FaultInjectionSettings) (source : TemplateSource)
    (target : FaultTarget) (paced : 0 < settings.pollInterval.nanos)
    (s : Timed (Stage ScriptedCluster)) :
    let applied := apply client source target s
    let ranOut := RanOut settings.experiment
      (checkLimit settings.pollInterval settings.waitTimeout) applied.1.2
      (applied.2.state.cluster.listing engines.kind (some target.workload.namespaceName))
    let r := (run client settings source target s).1
    (r.code = none ↔ r.verdict = .pass) ∧ (ranOut → r.code = some .recoveryTimeout) ∧
      (¬ranOut → ∀ c, r.code = some c → c.category = .faultInjection ∨ c.category = .cluster) := by
  intro applied ranOut r
  have coded : Coded ranOut r.code := run_coded settings source target paced s
  refine ⟨?_, fun late => ?_, fun inTime c given => ?_⟩
  · have code : r.code = _ := run_code settings source target s
    have verdict : r.verdict = _ := run_verdict settings source target s
    rw [code, verdict]
    exact code_eq_none_iff _
  · exact coded.eq_of_late late
  · rw [given] at coded
    exact coded.fits_of_inTime inTime

section LateEngine

/-- A cluster whose engine never completes. -/
def idleEngine : Timed (Stage ScriptedCluster) := ⟨{}, ⟨{ ScriptedCluster.initial with
  listScripts := [("ChaosEngine", [.ok [engineIn "initialized"]])] }, []⟩⟩

theorem ranOut_of_undecided {s : Timed (Stage ScriptedCluster)}
    (h : ∀ k, Undecided "pod-delete" (s.state.cluster.listing engines.kind (some "shop") k))
    (limit : Nat) :
    let applied := apply client emptyTemplates shopTarget s
    RanOut "pod-delete" limit applied.1.2
      (applied.2.state.cluster.listing engines.kind (some "shop")) := by
  rw [apply_emptyTemplates]
  exact ⟨rfl, fun k _ => h k⟩

theorem run_code_fits_idleEngine :
    0 < ({} : FaultInjectionSettings).pollInterval.nanos ∧
      (run client {} emptyTemplates shopTarget idleEngine).1.code = some .recoveryTimeout := by
  have running : EngineStatus.ofObject (engineIn "initialized") =
      .ok ⟨some "initialized", [⟨"pod-delete", none, none⟩]⟩ := rfl
  have undecided : ∀ k, Undecided "pod-delete"
      (idleEngine.state.cluster.listing engines.kind (some "shop") k) := by
    intro k
    have listed : idleEngine.state.cluster.listing engines.kind (some "shop") k =
        .ok [engineIn "initialized"] := by
      simp [ScriptedCluster.listing, idleEngine, Dict.find?, engines, chaosKind]
    rw [listed]
    exact .running running fun completed => absurd completed.2 (by decide)
  exact ⟨by decide, (run_code_fits_iff_inTime {} emptyTemplates shopTarget (by decide)
    idleEngine).2.1 (ranOut_of_undecided undecided _)⟩

/-- An engine that does not complete in time has a code of its own, but what is given is the code of
a workload that did not recover from a drain. Here there never is an engine. -/
theorem code_may_not_fit :
    let code := (run client {} emptyTemplates shopTarget emptyStage).1.code
    (∀ k, emptyStage.state.cluster.listing engines.kind (some "shop") k = .ok []) ∧
      code = some .recoveryTimeout ∧ code ≠ some .chaosEngineTimeout ∧
      ErrorCode.recoveryTimeout.category = .disruption := by
  intro code
  have empty : ∀ k, emptyStage.state.cluster.listing engines.kind (some "shop") k = .ok [] :=
    fun _ => rfl
  have undecided : ∀ k, Undecided "pod-delete"
      (emptyStage.state.cluster.listing engines.kind (some "shop") k) := fun _ => .empty
  have coded : Coded _ code := run_coded {} emptyTemplates shopTarget (by decide) emptyStage
  have late : code = some .recoveryTimeout := coded.eq_of_late (ranOut_of_undecided undecided _)
  exact ⟨empty, late, by rw [late]; decide, rfl⟩

end LateEngine

end Resilience.Fault
