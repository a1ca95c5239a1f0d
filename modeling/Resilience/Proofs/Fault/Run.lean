import Resilience.Fault.Injection
/-! # The parts of a fault injection

A fault injection is its attempt, its cleanup and its report. The cleanup is one deletion after
another, each of which adds its step to the report.
-/
namespace Resilience.Fault

def reportOf (settings : FaultInjectionSettings) (target : FaultTarget) (a : Attempt)
    (t : TeardownReport) : FaultReport :=
  let judged := judgeAttempt settings.experiment target.workload a.result
  ⟨target.workload, settings.experiment, judged.1, judged.2.1, judged.2.2, a.created, a.wait,
    a.result.toOption, t⟩

section Reports

variable (settings : FaultInjectionSettings) (target : FaultTarget) (a : Attempt)
  (t t' : TeardownReport)

theorem reportOf_eq :
    reportOf settings target a t' = { reportOf settings target a t with teardown := t' } := rfl

/-- What a fault injection adds to the report of its run does not tell of its cleanup. -/
theorem scenarioReport_reportOf : (reportOf settings target a t').scenarioReport =
    (reportOf settings target a t).scenarioReport := rfl

end Reports

variable {σ : Type} (client : Client σ)

/-- A run is its attempt, its cleanup and its report, in this order. -/
theorem run_eq (settings : FaultInjectionSettings) (source : TemplateSource) (target : FaultTarget)
    (s : Timed (Stage σ)) :
    let a := attempt client settings source target s
    let t := teardown client settings target.workload.namespaceName a.2
    let r := reportOf settings target a.1 t.1
    run client settings source target s =
      (r, { t.2 with state := { t.2.state with
        reports := t.2.state.reports ++ [r.scenarioReport] } }) := by
  simp only [run, bind, StateT.bind]
  generalize attempt client settings source target s = attempted
  obtain ⟨a, after⟩ := attempted
  dsimp only
  generalize teardown client settings target.workload.namespaceName after = cleaned
  obtain ⟨report, clean⟩ := cleaned
  rfl

def statusOf {α : Type} : Except ClusterError α → TeardownStatus
  | .ok _ => .deleted
  | .error e => if e.isNotFound then .alreadyGone else .failed

def warning? {α : Type} (m : Mapping) (name : String) :
    Except ClusterError α → Option CleanupWarning
  | .ok _ => none
  | .error e => if e.isNotFound then none else some ⟨m.kind, name, e.message⟩

/-- A cleanup goes on to the next deletion whatever was answered, and adds one step for each. -/
theorem deleteObjects_cons (ns : String) (t : Mapping × String)
    (targets : List (Mapping × String)) (s : Timed (Stage σ)) :
    let call : Call := .delete t.1 (some ns) t.2
    let reply := (client.perform call s.state.cluster).1
    let rest := deleteObjects client ns targets (Scenario.perform client call s).2
    deleteObjects client ns (t :: targets) s =
      (⟨⟨t.1.kind, t.2, statusOf reply⟩ :: rest.1.steps,
        (warning? t.1 t.2 reply).toList ++ rest.1.warnings⟩, rest.2) := by
  obtain ⟨mapping, name⟩ := t
  simp only [deleteObjects, bind, StateT.bind]
  generalize made : Scenario.perform client (.delete mapping (some ns) name) s = answered
  have reply : (client.perform (.delete mapping (some ns) name) s.state.cluster).1 =
      answered.1 := by
    rw [← made]
    rfl
  rw [reply]
  clear reply made
  obtain ⟨reply, after⟩ := answered
  cases reply with
  | ok u => rfl
  | error e =>
    by_cases gone : e.isNotFound = true
    · simp only [statusOf, warning?, if_pos gone]
      rfl
    · simp only [statusOf, warning?, if_neg gone]
      rfl

end Resilience.Fault
